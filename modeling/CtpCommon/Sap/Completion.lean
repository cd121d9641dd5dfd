import CtpCommon.Lib.Memory
import CtpCommon.Sap.Order

/-!
# The completion of a SAP request

The UIM completes a request by its address.  `onRequestComplete` looks the request up once more, in
`pendingResponseQueue`, by the message id and the token that the client has chosen, and
`checkAndDequeue` frees what it finds.  A request is in that queue before the UIM is given it, and
until the completion has sent its response.

* `Block`, `lookup`, `dequeueAccesses` — the blocks, and what a completion does with them;
* `SapMemory`, `sapMemory` — the socket over its memory, with a record of the completions;
* `Completion.Exact` — a completion removes and frees its own request, and nothing else;
* `Paired` — the queue holds the requests that are put on it and not completed, the last one first;
* `exact_iff` — **PROVED**: a completion is exact exactly if no request that was put on the queue
  later, and not completed, has its id and token;
* `completions_exact` — **PROVED**: so are those of a run, and nothing freed is read.
-/

namespace CtpCommon.Sap

open Memory (Access)

/-! ### Accesses -/

/-- The `SapSocketRequest` that `dispatchRequest` allocates, and the `MsgHeader` that `pushRecord`
does. -/
inductive Block where
  | request (serial : ℕ)
  | header (serial : ℕ)
  deriving DecidableEq, Repr

/-- What `checkAndDequeue` is given for it. -/
def SapSocketRequest.key (r : SapSocketRequest) : ℕ × ℤ := (r.curr.id, r.token)

/-- `checkAndDequeue` reads the token of each element, and the id where the token is the one; it
frees the first that has both. -/
def lookup (id : ℕ) (token : ℤ) : List SapSocketRequest → List (Access Block)
  | [] => []
  | q :: rest =>
      if token = q.token then
        .read (.request q.serial) :: .read (.header q.serial) ::
          if id = q.curr.id then [.free (.request q.serial)] else lookup id token rest
      else .read (.request q.serial) :: lookup id token rest

/-- `onRequestComplete` as far as `sendResponse`. -/
def completionReads (r : SapSocketRequest) (response : List UInt8) : List (Access Block) :=
  .read (.request r.serial) :: if response = [] then [] else [.read (.header r.serial)]

/-- The rest of `onRequestComplete`; a request that is not found is logged. -/
def dequeueAccesses (r : SapSocketRequest) (pending : RilQueue SapSocketRequest) :
    List (Access Block) :=
  .read (.header r.serial) :: (lookup r.curr.id r.curr.token pending.elems ++
    ((if (pending.checkAndDequeue SapSocketRequest.key r.curr.id r.curr.token).1 then []
      else [.read (.header r.serial)]) ++ [.free (.header r.serial)]))

variable (E : SapEnv)

namespace SapState

/-- The requests of the socket that the UIM has and has not completed; not those of
`dispatchDisconnect`. -/
def own (s : SapState) : List SapSocketRequest :=
  s.outstanding.filter fun r => r.socketId == rilSocket1

/-- Those and the ones whose completion has not dequeued them. -/
def inUse (s : SapState) : List SapSocketRequest := s.own ++ s.completing

/-- The request whose completion a step ends. -/
def completed (s : SapState) : SapAction → Option SapSocketRequest
  | .dequeueCompleted i => s.completing[i]?
  | _ => none

/-- What a step does with the blocks.  A request of `dispatchDisconnect` has blocks of its own. -/
def accesses (s : SapState) (a : SapAction) : List (Access Block) :=
  match a with
  | .pushRecord record =>
      if (E.pbDecode record).isSome then [.alloc (.header s.pushed.length)] else []
  | .dispatch i =>
      (s.held[i]?).elim [] fun r => [.alloc (.request r.serial), .read (.header r.serial)]
  | .onRequest i => (s.held[i]?).elim [] fun r => [.read (.header r.serial)]
  | .complete i _ response _ =>
      ((s.outstanding[i]?).filter fun r => r.socketId == rilSocket1).elim [] fun r =>
        completionReads r response
  | .dequeueCompleted i =>
      (s.completing[i]?).elim [] fun r => dequeueAccesses r s.pendingResponseQueue
  | _ => []

end SapState

/-! ### The system -/

/-- The end of a completion: its accesses, and what was allocated before; the queue before it and
after it; and the other requests that are on the queue and not completed. -/
structure Completion where
  request : SapSocketRequest
  accesses : List (Access Block)
  allocated : Block → Bool
  pending : List SapSocketRequest
  pendingAfter : List SapSocketRequest
  others : List SapSocketRequest

/-- The request is removed and freed, with its header; and every other one stays queued and
allocated. -/
structure Completion.Exact (c : Completion) : Prop where
  queued : c.request ∈ c.pending
  removed : c.pendingAfter = c.pending.erase c.request
  freed : Memory.freed c.accesses = [.request c.request.serial, .header c.request.serial]
  others : ∀ q ∈ c.others, q ∈ c.pendingAfter ∧
    Memory.after c.allocated c.accesses (.request q.serial) = true ∧
    Memory.after c.allocated c.accesses (.header q.serial) = true

/-- The socket, all accesses to its blocks, and its completions. -/
structure SapMemory where
  sap : SapState
  trace : List (Access Block)
  completions : List Completion

namespace SapMemory

def allocated (m : SapMemory) : Block → Bool := Memory.after (fun _ => false) m.trace

/-- Nothing was read or freed that was not allocated then. -/
def Sound (m : SapMemory) : Prop := Memory.Sound (fun _ => false) m.trace

/-- The record of a completion. -/
def completion (m : SapMemory) (t : SapState) (r : SapSocketRequest) : Completion where
  request := r
  accesses := dequeueAccesses r m.sap.pendingResponseQueue
  allocated := m.allocated
  pending := m.sap.pendingResponseQueue.elems
  pendingAfter := t.pendingResponseQueue.elems
  others := t.queued

def step (m : SapMemory) (a : SapAction) : Option SapMemory :=
  (sapStep E m.sap a).map fun t =>
    { sap := t
      trace := m.trace ++ m.sap.accesses E a
      completions := m.completions ++ (m.sap.completed a).toList.map (m.completion t) }

/-- No request that was put on the queue after the one that is completed, and is not completed, has
its id and its token. -/
def Newest (m : SapMemory) : SapAction → Prop
  | .dequeueCompleted i => ∀ r, m.sap.completing[i]? = some r →
      ∀ q ∈ m.sap.queued.drop (m.sap.queued.idxOf r + 1), q.key ≠ r.key
  | _ => True

theorem allocated_step {m t : SapMemory} {a : SapAction} (h : m.step E a = some t) :
    t.allocated = Memory.after m.allocated (m.sap.accesses E a) := by
  obtain ⟨u, -, rfl⟩ := Option.map_eq_some_iff.mp h
  exact Memory.after_append

theorem sound_step {m t : SapMemory} {a : SapAction} (h : m.step E a = some t) :
    t.Sound ↔ m.Sound ∧ Memory.Sound m.allocated (m.sap.accesses E a) := by
  obtain ⟨u, -, rfl⟩ := Option.map_eq_some_iff.mp h
  exact Memory.sound_append

end SapMemory

def sapMemory : Runs.System SapMemory SapAction :=
  ⟨⟨sapInit, [], []⟩, SapMemory.step E⟩

/-! ### What a completion reads and frees -/

section

variable {id : ℕ} {token : ℤ} {elems : List SapSocketRequest} {r : SapSocketRequest}
  {pending : RilQueue SapSocketRequest} {allocated : Block → Bool}

theorem key_beq_iff {q : SapSocketRequest} :
    (q.key == (id, token)) = true ↔ id = q.curr.id ∧ token = q.token := by
  rw [beq_iff_eq, SapSocketRequest.key, Prod.mk.injEq, eq_comm, eq_comm (a := q.token)]

/-- **`checkAndDequeue`** frees the first element with this id and token. -/
theorem freed_lookup : Memory.freed (lookup id token elems) =
    ((elems.find? fun q => q.key == (id, token)).map fun q => Block.request q.serial).toList := by
  induction elems with
  | nil => rfl
  | cons q rest ih =>
    rw [List.find?_cons]
    unfold lookup
    by_cases htoken : token = q.token
    · rw [if_pos htoken]
      by_cases hid : id = q.curr.id
      · rw [if_pos hid, key_beq_iff.mpr ⟨hid, htoken⟩]
        rfl
      · rw [if_neg hid, Bool.eq_false_iff.mpr fun h => hid (key_beq_iff.mp h).1]
        exact ih
    · rw [if_neg htoken, Bool.eq_false_iff.mpr fun h => htoken (key_beq_iff.mp h).2]
      exact ih

theorem isAlloc_lookup : ∀ a ∈ lookup id token elems, a.isAlloc = false := by
  induction elems with
  | nil => exact fun a ha => absurd ha List.not_mem_nil
  | cons q rest ih =>
    unfold lookup
    split
    · refine List.forall_mem_cons.mpr ⟨rfl, List.forall_mem_cons.mpr ⟨rfl, ?_⟩⟩
      split
      · exact fun a ha => List.mem_singleton.mp ha ▸ rfl
      · exact ih
    · exact List.forall_mem_cons.mpr ⟨rfl, ih⟩

/-- The elements that are read are allocated, until one is freed. -/
theorem sound_lookup (h : ∀ q ∈ elems,
    allocated (.request q.serial) = true ∧ allocated (.header q.serial) = true) :
    Memory.Sound allocated (lookup id token elems) := by
  induction elems with
  | nil => trivial
  | cons q rest ih =>
    obtain ⟨⟨hrequest, hheader⟩, hrest⟩ := List.forall_mem_cons.mp h
    unfold lookup
    split
    · refine ⟨hrequest, hheader, ?_⟩
      split
      · exact ⟨hrequest, trivial⟩
      · exact ih hrest
    · exact ⟨hrequest, ih hrest⟩

/-- What a completion frees: what `checkAndDequeue` finds, and its own header. -/
theorem freed_dequeueAccesses : Memory.freed (dequeueAccesses r pending) =
    ((pending.elems.find? fun q => q.key == (r.curr.id, r.curr.token)).map
      fun q => Block.request q.serial).toList ++ [.header r.serial] := by
  unfold dequeueAccesses
  show Memory.freed (lookup r.curr.id r.curr.token pending.elems ++ _) = _
  rw [Memory.freed_append, Memory.freed_append, freed_lookup]
  split
  · rfl
  · rfl

theorem isAlloc_dequeueAccesses : ∀ a ∈ dequeueAccesses r pending, a.isAlloc = false := by
  unfold dequeueAccesses
  rw [List.forall_mem_cons, List.forall_mem_append, List.forall_mem_append]
  refine ⟨rfl, isAlloc_lookup, ?_, List.forall_mem_singleton.mpr rfl⟩
  split
  · exact fun a ha => absurd ha List.not_mem_nil
  · exact List.forall_mem_singleton.mpr rfl

/-- **A completion** reads nothing that was freed, if its header and the elements of the queue are
allocated. -/
theorem sound_dequeueAccesses (hheader : allocated (.header r.serial) = true)
    (hpending : ∀ q ∈ pending.elems,
      allocated (.request q.serial) = true ∧ allocated (.header q.serial) = true) :
    Memory.Sound allocated (dequeueAccesses r pending) := by
  have hkept : Memory.after allocated (lookup r.curr.id r.curr.token pending.elems)
      (.header r.serial) = true := by
    rw [Memory.after_eq isAlloc_lookup, hheader, freed_lookup]
    simp
  unfold dequeueAccesses
  refine ⟨hheader, ?_⟩
  show Memory.Sound allocated (lookup r.curr.id r.curr.token pending.elems ++ _)
  refine Memory.sound_append.mpr ⟨sound_lookup hpending, ?_⟩
  split
  · exact ⟨hkept, trivial⟩
  · exact ⟨hkept, hkept, trivial⟩

theorem after_completionReads {response : List UInt8} :
    Memory.after allocated (completionReads r response) = allocated := by
  unfold completionReads
  split <;> rfl

theorem sound_completionReads {response : List UInt8}
    (hrequest : allocated (.request r.serial) = true)
    (hheader : allocated (.header r.serial) = true) :
    Memory.Sound allocated (completionReads r response) := by
  unfold completionReads
  split
  · exact ⟨hrequest, trivial⟩
  · exact ⟨hrequest, hheader, trivial⟩

end

/-! ### The invariant -/

/-- The queue holds the requests that were put on it and not completed, the last one first; these
are handed over or held; all of them are allocated, with their headers, and so are the headers of
the records not yet put on it. -/
structure Paired (s : SapState) (allocated : Block → Bool) : Prop where
  accounted : Accounted s
  records : ∀ r ∈ s.pushed, r.socketId = rilSocket1 ∧ r.token = r.curr.token
  inUse : s.inUse.Nodup
  handed : ∀ r ∈ s.inUse, r ∈ s.handed ∧ r ∈ s.queued
  nodup : s.queued.Nodup
  started : ∀ r ∈ s.queued, r ∈ s.handed ∨ r ∈ s.held
  pending : s.pendingResponseQueue.elems = s.queued.reverse
  requests : ∀ r ∈ s.queued, allocated (.request r.serial) = true
  headers : ∀ r ∈ s.queued ++ s.held ++ s.dispatchQueue.elems,
    allocated (.header r.serial) = true

namespace Paired

variable {s : SapState} {allocated : Block → Bool}

theorem requests_nodup (h : Paired s allocated) : s.requests.Nodup :=
  h.accounted.perm.nodup_iff.mpr h.accounted.nodup

theorem pushed_of_mem (h : Paired s allocated) {r : SapSocketRequest}
    (hr : r ∈ s.queued ++ s.held ++ s.dispatchQueue.elems) : r ∈ s.pushed := by
  refine h.accounted.perm.mem_iff.mp ?_
  unfold SapState.requests
  rw [List.mem_append, List.mem_append] at hr ⊢
  rw [List.mem_reverse]
  rcases hr with (hqueued | hheld) | hwaits
  · exact .inl (h.started r hqueued)
  · exact .inl (.inr hheld)
  · exact .inr hwaits

/-- A request that was handed over waits nowhere. -/
theorem not_waiting (h : Paired s allocated) {r : SapSocketRequest} (hr : r ∈ s.handed) :
    r ∉ s.held ++ s.dispatchQueue.elems := by
  have hnodup := h.requests_nodup
  unfold SapState.requests at hnodup
  rw [List.append_assoc] at hnodup
  intro hwaits
  refine (List.nodup_append.mp hnodup).2.2 r hr r ?_ rfl
  rw [List.mem_append] at hwaits ⊢
  rw [List.mem_reverse]
  exact hwaits

/-- **The serials** tell the requests apart. -/
theorem serial_ne (h : Paired s allocated) {q r : SapSocketRequest} (hq : q ∈ s.pushed)
    (hr : r ∈ s.pushed) (hne : q ≠ r) : q.serial ≠ r.serial := by
  have hserials : (s.pushed.map SapSocketRequest.serial).Nodup := by
    rw [h.accounted.serial]
    exact List.nodup_range
  exact fun heq => hne (List.inj_on_of_nodup_map hserials hq hr heq)

theorem key_eq (h : Paired s allocated) {r : SapSocketRequest} (hr : r ∈ s.queued) :
    (r.curr.id, r.curr.token) = r.key := by
  have hmem := h.pushed_of_mem (List.mem_append_left _ (List.mem_append_left _ hr))
  rw [SapSocketRequest.key, (h.records r hmem).2]

/-- Two steps with the same requests on the queue and in use. -/
theorem congr {t : SapState} (h : Paired s allocated) (haccounted : Accounted t)
    (hpushed : t.pushed = s.pushed) (hhanded : t.handed = s.handed)
    (hqueued : t.queued = s.queued) (hinUse : t.inUse.Perm s.inUse)
    (hpending : t.pendingResponseQueue = s.pendingResponseQueue)
    (hheld : ∀ r ∈ s.held, r ∈ t.held)
    (hwaiting : ∀ r ∈ t.held ++ t.dispatchQueue.elems,
      r ∈ s.held ++ s.dispatchQueue.elems) : Paired t allocated := by
  refine ⟨haccounted, hpushed ▸ h.records, hinUse.nodup_iff.mpr h.inUse, ?_, hqueued ▸ h.nodup, ?_,
    ?_, ?_, ?_⟩
  · intro r hr
    rw [hhanded, hqueued]
    exact h.handed r (hinUse.mem_iff.mp hr)
  · intro r hr
    rw [hhanded]
    exact (h.started r (hqueued ▸ hr)).imp_right (hheld r)
  · rw [hpending, hqueued]
    exact h.pending
  · rw [hqueued]
    exact h.requests
  · intro r hr
    refine h.headers r ?_
    rw [List.append_assoc, List.mem_append] at hr ⊢
    rw [← hqueued]
    exact hr.imp_right (hwaiting r)

end Paired

/-! ### One completion -/

/-- The requests that were put on the queue after one of them. -/
theorem later_eq {queued before later : List SapSocketRequest} {r : SapSocketRequest}
    (hqueued : queued = before ++ r :: later) (hnot : r ∉ before) :
    queued.drop (queued.idxOf r + 1) = later := by
  rw [hqueued, List.idxOf_append_of_notMem hnot, List.idxOf_cons_self, Nat.add_zero,
    ← List.singleton_append, ← List.append_assoc]
  exact List.drop_left' (by rw [List.length_append, List.length_singleton])

section

variable {s : SapState} {allocated : Block → Bool} {r : SapSocketRequest}
  {before later : List SapSocketRequest}

theorem Paired.not_before (h : Paired s allocated) (hqueued : s.queued = before ++ r :: later) :
    r ∉ before := by
  have hnodup := h.nodup
  rw [hqueued, List.nodup_append] at hnodup
  exact fun hmem => hnodup.2.2 r hmem r List.mem_cons_self rfl

/-- The queue around a request. -/
theorem Paired.pending_eq (h : Paired s allocated) (hqueued : s.queued = before ++ r :: later) :
    s.pendingResponseQueue.elems = later.reverse ++ r :: before.reverse := by
  rw [h.pending, hqueued, List.reverse_append, List.reverse_cons, List.append_assoc]
  rfl

/-- The first element of the queue with the id and the token of a request on it. -/
theorem Paired.find? (h : Paired s allocated) (hqueued : s.queued = before ++ r :: later) :
    (s.pendingResponseQueue.elems.find? fun q => q.key == (r.curr.id, r.curr.token)) =
      some ((later.reverse.find? fun q => q.key == r.key).getD r) := by
  have hr : r ∈ s.queued := hqueued ▸ List.mem_append_right _ List.mem_cons_self
  rw [h.pending_eq hqueued, h.key_eq hr, List.find?_append]
  cases later.reverse.find? fun q => q.key == r.key with
  | some q => rfl
  | none => simp

/-- The other requests on the queue are others, and have other serials. -/
theorem Paired.others_ne (h : Paired s allocated) (hqueued : s.queued = before ++ r :: later) :
    ∀ q ∈ before ++ later, q ≠ r ∧ q.serial ≠ r.serial := by
  have hpushed : ∀ q ∈ s.queued, q ∈ s.pushed := fun q hq =>
    h.pushed_of_mem (List.mem_append_left _ (List.mem_append_left _ hq))
  have hr : r ∈ s.queued := hqueued ▸ List.mem_append_right _ List.mem_cons_self
  have hnodup := h.nodup
  rw [hqueued, List.nodup_middle] at hnodup
  intro q hq
  have hne : q ≠ r := fun heq => (List.nodup_cons.mp hnodup).1 (heq ▸ hq)
  have hmem : q ∈ s.queued := by
    rw [hqueued, List.mem_append, List.mem_cons]
    exact (List.mem_append.mp hq).imp_right Or.inr
  exact ⟨hne, h.serial_ne (hpushed q hmem) (hpushed r hr) hne⟩

/-- **What stays allocated** when a completion frees its own request and header. -/
theorem kept {pending : RilQueue SapSocketRequest}
    (hfreed : Memory.freed (dequeueAccesses r pending) = [.request r.serial, .header r.serial])
    {q : SapSocketRequest} (hne : q.serial ≠ r.serial) :
    Memory.after allocated (dequeueAccesses r pending) (.request q.serial)
        = allocated (.request q.serial) ∧
      Memory.after allocated (dequeueAccesses r pending) (.header q.serial)
        = allocated (.header q.serial) := by
  rw [Memory.after_eq isAlloc_dequeueAccesses, Memory.after_eq isAlloc_dequeueAccesses, hfreed]
  simp [hne]

/-- **`checkAndDequeue`** removes a request that is the newest with its id and token. -/
theorem Paired.dequeued (h : Paired s allocated) (hqueued : s.queued = before ++ r :: later)
    (hnewest : ∀ q ∈ later, q.key ≠ r.key) :
    (s.pendingResponseQueue.checkAndDequeue SapSocketRequest.key r.curr.id
      r.curr.token).2.elems = (before ++ later).reverse := by
  have hr : r ∈ s.queued := hqueued ▸ List.mem_append_right _ List.mem_cons_self
  show s.pendingResponseQueue.elems.eraseP _ = _
  rw [h.pending_eq hqueued, h.key_eq hr, List.eraseP_append_right _ fun q hq hmatch =>
    hnewest q (List.mem_reverse.mp hq) (beq_iff_eq.mp hmatch), List.eraseP_cons_of_pos (by simp),
    List.reverse_append]

/-- The newest with its id and token is what a completion frees. -/
theorem Paired.freed (h : Paired s allocated) (hqueued : s.queued = before ++ r :: later)
    (hnewest : ∀ q ∈ later, q.key ≠ r.key) :
    Memory.freed (dequeueAccesses r s.pendingResponseQueue)
      = [.request r.serial, .header r.serial] := by
  have hlater : (later.reverse.find? fun q => q.key == r.key) = none :=
    List.find?_eq_none.mpr fun q hq hkey =>
      hnewest q (List.mem_reverse.mp hq) (beq_iff_eq.mp hkey)
  rw [freed_dequeueAccesses, h.find? hqueued, hlater]
  rfl

/-- **A completion is exact** exactly if no request behind it has its id and token. -/
theorem exact_iff {m : SapMemory} {t : SapState} (h : Paired m.sap m.allocated)
    (hqueued : m.sap.queued = before ++ r :: later)
    (hqueued' : t.queued = before ++ later)
    (hpending : t.pendingResponseQueue = (m.sap.pendingResponseQueue.checkAndDequeue
      SapSocketRequest.key r.curr.id r.curr.token).2) :
    (m.completion t r).Exact ↔ ∀ q ∈ later, q.key ≠ r.key := by
  have hr : r ∈ m.sap.queued := hqueued ▸ List.mem_append_right _ List.mem_cons_self
  constructor
  · intro hexact
    cases hlater : later.reverse.find? fun q => q.key == r.key with
    | none =>
      intro q hq hkey
      exact List.find?_eq_none.mp hlater q (List.mem_reverse.mpr hq) (beq_iff_eq.mpr hkey)
    | some q =>
      have hq : q ∈ later := List.mem_reverse.mp (List.mem_of_find?_eq_some hlater)
      have hfreed : Memory.freed (dequeueAccesses r m.sap.pendingResponseQueue) = _ :=
        freed_dequeueAccesses
      rw [h.find? hqueued, hlater] at hfreed
      have hserial : q.serial = r.serial := by
        have hblocks := hfreed.symm.trans hexact.freed
        exact Block.request.inj (List.cons.inj hblocks).1
      exact absurd hserial (h.others_ne hqueued q (List.mem_append_right _ hq)).2
  · intro hnewest
    have hnot : r ∉ later.reverse := fun hmem => hnewest r (List.mem_reverse.mp hmem) rfl
    have hafter : t.pendingResponseQueue.elems = (before ++ later).reverse := by
      rw [hpending, h.dequeued hqueued hnewest]
    have hfreed := h.freed hqueued hnewest
    refine ⟨?_, ?_, hfreed, ?_⟩
    · show r ∈ m.sap.pendingResponseQueue.elems
      rw [h.pending]
      exact List.mem_reverse.mpr hr
    · show t.pendingResponseQueue.elems = m.sap.pendingResponseQueue.elems.erase r
      rw [hafter, h.pending_eq hqueued, List.erase_append_right _ hnot, List.erase_cons_head,
        List.reverse_append]
    · intro q hq
      replace hq : q ∈ before ++ later := hqueued' ▸ hq
      have hmem : q ∈ m.sap.queued := by
        rw [hqueued, List.mem_append, List.mem_cons]
        exact (List.mem_append.mp hq).imp_right Or.inr
      obtain ⟨hrequest, hheader⟩ := kept hfreed
        (h.others_ne hqueued q hq).2
      refine ⟨?_, ?_, ?_⟩
      · show q ∈ t.pendingResponseQueue.elems
        rw [hafter, List.mem_reverse]
        exact hq
      · exact hrequest.trans (h.requests q hmem)
      · exact hheader.trans
          (h.headers q (List.mem_append_left _ (List.mem_append_left _ hmem)))

end

/-! ### One step -/

theorem own_disconnect (s : SapState) : (onCommandsSocketClosed s).own = s.own := by
  unfold SapState.own onCommandsSocketClosed
  rw [List.filter_append]
  exact List.append_nil _

/-- A request is taken from those the UIM has. -/
theorem own_eraseIdx {s : SapState} {i : ℕ} {r : SapSocketRequest}
    (hr : s.outstanding[i]? = some r) :
    s.own.Perm ((if r.socketId = rilSocket1 then [r] else []) ++
      (s.outstanding.eraseIdx i).filter fun q => q.socketId == rilSocket1) := by
  obtain ⟨hi, rfl⟩ := List.getElem?_eq_some_iff.mp hr
  have hperm := (List.getElem_cons_eraseIdx_perm hi).symm.filter fun q => q.socketId == rilSocket1
  unfold SapState.own
  refine hperm.trans ?_
  rw [List.filter_cons]
  simp only [beq_iff_eq]
  split <;> rfl

section

variable {E} {s u : SapState} {allocated : Block → Bool}

theorem Paired.pushRecord (h : Paired s allocated) {record : List UInt8}
    (hst : sapStep E s (.pushRecord record) = some u) :
    Paired u (Memory.after allocated (s.accesses E (.pushRecord record))) := by
  have haccounted := sapStep_accounted E h.accounted hst
  cases sapStepTo_of_step E hst
  rw [SapState.accesses]
  cases hdecode : E.pbDecode record with
  | none =>
    have hsame : Sap.pushRecord E record s = s := by
      unfold Sap.pushRecord
      rw [hdecode]
    rw [hsame]
    exact h
  | some reqHeader =>
    have hpush : Sap.pushRecord E record s = { s with
        dispatchQueue := s.dispatchQueue.enqueue
          ⟨s.pushed.length, s.connection, reqHeader.token, reqHeader, rilSocket1⟩
        pushed := s.pushed ++
          [⟨s.pushed.length, s.connection, reqHeader.token, reqHeader, rilSocket1⟩] } := by
      unfold Sap.pushRecord
      rw [hdecode]
    rw [hpush] at haccounted ⊢
    have hmono : ∀ x, allocated x = true →
        Access.after allocated (.alloc (.header s.pushed.length)) x = true :=
      fun x hx => Memory.alloc_of_allocated (.header s.pushed.length) hx
    refine ⟨haccounted, ?_, h.inUse, h.handed, h.nodup, h.started, h.pending,
      fun r hr => hmono _ (h.requests r hr), ?_⟩
    · exact List.forall_mem_append.mpr
        ⟨h.records, List.forall_mem_singleton.mpr ⟨rfl, rfl⟩⟩
    · intro r hr
      rcases List.mem_append.mp hr with hold | hqueue
      · exact hmono _ (h.headers r (List.mem_append_left _ hold))
      · rcases List.mem_cons.mp hqueue with rfl | hqueue
        · exact Function.update_self _ _ _
        · exact hmono _ (h.headers r (List.mem_append_right _ hqueue))

/-- A held request is put on the queue. -/
theorem Paired.dispatch (h : Paired s allocated) {i : ℕ}
    (hst : sapStep E s (.dispatch i) = some u) :
    Paired u (Memory.after allocated (s.accesses E (.dispatch i))) := by
  have haccounted := sapStep_accounted E h.accounted hst
  cases sapStepTo_of_step E hst with
  | dispatch _ r hr hnew =>
    have hheld : r ∈ s.held := List.mem_of_getElem? hr
    have hmono : ∀ x, allocated x = true →
        Memory.after allocated (s.accesses E (.dispatch i)) x = true := by
      intro x hx
      rw [SapState.accesses, hr]
      exact Memory.alloc_of_allocated (.request r.serial) hx
    refine ⟨haccounted, h.records, h.inUse, ?_, ?_, ?_, ?_, ?_, ?_⟩
    · exact fun q hq => ⟨(h.handed q hq).1, List.mem_append_left _ (h.handed q hq).2⟩
    · refine List.nodup_append.mpr ⟨h.nodup, List.nodup_singleton r, fun q hq x hx heq => hnew ?_⟩
      exact List.mem_singleton.mp hx ▸ heq ▸ hq
    · exact List.forall_mem_append.mpr ⟨h.started, List.forall_mem_singleton.mpr (.inr hheld)⟩
    · show r :: s.pendingResponseQueue.elems = (s.queued ++ [r]).reverse
      rw [h.pending, List.reverse_append]
      rfl
    · refine List.forall_mem_append.mpr ⟨fun q hq => hmono _ (h.requests q hq),
        List.forall_mem_singleton.mpr ?_⟩
      rw [SapState.accesses, hr]
      exact Function.update_self _ _ _
    · intro q hq
      refine hmono _ (h.headers q ?_)
      rcases List.mem_append.mp hq with hq | hqueue
      · rcases List.mem_append.mp hq with hq | hrest
        · rcases List.mem_append.mp hq with hold | hlast
          · exact List.mem_append_left _ (List.mem_append_left _ hold)
          · rw [List.mem_singleton.mp hlast]
            exact List.mem_append_left _ (List.mem_append_right _ hheld)
        · exact List.mem_append_left _ (List.mem_append_right _ hrest)
      · exact List.mem_append_right _ hqueue

/-- A request that is on the queue is handed over. -/
theorem Paired.onRequest (h : Paired s allocated) {i : ℕ}
    (hst : sapStep E s (.onRequest i) = some u) : Paired u allocated := by
  have haccounted := sapStep_accounted E h.accounted hst
  cases sapStepTo_of_step E hst with
  | onRequest _ r hr hqueued =>
    have hheld : r ∈ s.held := List.mem_of_getElem? hr
    have hid : r.socketId = rilSocket1 := (h.records r (h.pushed_of_mem
      (List.mem_append_left _ (List.mem_append_right _ hheld)))).1
    have hinUse : (callOnRequest r { s with held := s.held.eraseIdx i }).inUse
        = s.own ++ r :: s.completing := by
      unfold SapState.inUse SapState.own callOnRequest
      dsimp only
      rw [List.filter_append, List.filter_singleton, beq_iff_eq.mpr hid, List.append_assoc]
      rfl
    have hnot : r ∉ s.inUse := fun hmem =>
      h.not_waiting (h.handed r hmem).1 (List.mem_append_left _ hheld)
    refine ⟨haccounted, h.records, ?_, ?_, h.nodup, ?_, h.pending, h.requests, ?_⟩
    · rw [hinUse, List.nodup_middle]
      exact List.nodup_cons.mpr ⟨hnot, h.inUse⟩
    · rw [hinUse]
      intro q hq
      rcases List.mem_append.mp hq with hown | hq
      · obtain ⟨hhanded, hq⟩ := h.handed q (List.mem_append_left _ hown)
        exact ⟨List.mem_append_left _ hhanded, hq⟩
      · rcases List.mem_cons.mp hq with rfl | hcompleting
        · exact ⟨List.mem_append_right _ (List.mem_singleton_self q), hqueued⟩
        · obtain ⟨hhanded, hq⟩ := h.handed q (List.mem_append_right _ hcompleting)
          exact ⟨List.mem_append_left _ hhanded, hq⟩
    · intro q hq
      rcases h.started q hq with hhanded | hwaits
      · exact .inl (List.mem_append_left _ hhanded)
      · by_cases hqr : q = r
        · exact .inl (List.mem_append_right _ (List.mem_singleton.mpr hqr))
        · obtain ⟨hi, hget⟩ := List.getElem?_eq_some_iff.mp hr
          have hperm := (List.getElem_cons_eraseIdx_perm hi).mem_iff.mpr hwaits
          rw [hget] at hperm
          exact .inr ((List.mem_cons.mp hperm).resolve_left hqr)
    · intro q hq
      refine h.headers q ?_
      rw [List.append_assoc, List.mem_append, List.mem_append] at hq ⊢
      exact hq.imp_right (Or.imp_left List.mem_of_mem_eraseIdx)

/-- The response of a completion is sent. -/
theorem Paired.complete (h : Paired s allocated) {i : ℕ} {e : ℤ} {response : List UInt8}
    {fault : Option ℕ} (hst : sapStep E s (.complete i e response fault) = some u) :
    Paired u allocated := by
  have haccounted := sapStep_accounted E h.accounted hst
  obtain ⟨r, hr, rfl⟩ := Option.map_eq_some_iff.mp hst
  obtain ⟨channel, sent, heq, -⟩ := sOnRequestComplete_spec E r e response fault
    { s with outstanding := s.outstanding.eraseIdx i }
  rw [heq] at haccounted ⊢
  refine h.congr haccounted rfl rfl rfl ?_ rfl (fun _ hq => hq) fun _ hq => hq
  refine List.Perm.trans ?_ ((own_eraseIdx hr).symm.append_right s.completing)
  show ((s.outstanding.eraseIdx i).filter _ ++ (s.completing ++ _)).Perm _
  rw [← List.append_assoc]
  exact (List.perm_append_comm).trans (by rw [List.append_assoc])

/-- A request whose completion ends is on the queue. -/
theorem Paired.split (h : Paired s allocated) {i : ℕ} {r : SapSocketRequest}
    (hr : s.completing[i]? = some r) :
    ∃ before later, s.queued = before ++ r :: later ∧ s.queued.erase r = before ++ later ∧
      s.queued.drop (s.queued.idxOf r + 1) = later := by
  have hqueued := (h.handed r (List.mem_append_right _ (List.mem_of_getElem? hr))).2
  obtain ⟨before, later, hsplit⟩ := List.append_of_mem hqueued
  have hnot := h.not_before hsplit
  refine ⟨before, later, hsplit, ?_, later_eq hsplit hnot⟩
  rw [hsplit, List.erase_append_right _ hnot, List.erase_cons_head]

/-- **The end of a completion** keeps the queue paired, if no request behind it has its id and
token. -/
theorem Paired.dequeueCompleted (h : Paired s allocated) {i : ℕ} {r : SapSocketRequest}
    (hr : s.completing[i]? = some r)
    (hnewest : ∀ q ∈ s.queued.drop (s.queued.idxOf r + 1), q.key ≠ r.key) :
    Paired (Sap.dequeueCompleted r { s with completing := s.completing.eraseIdx i })
      (Memory.after allocated (dequeueAccesses r s.pendingResponseQueue)) := by
  have haccounted : Accounted (Sap.dequeueCompleted r
      { s with completing := s.completing.eraseIdx i }) :=
    h.accounted.congr rfl rfl rfl rfl fun ht => ⟨ht, (h.accounted.threads ht).1⟩
  obtain ⟨before, later, hqueued, herase, hlater⟩ := h.split hr
  rw [hlater] at hnewest
  have hinUse : s.inUse.Perm (r :: (s.own ++ s.completing.eraseIdx i)) := by
    obtain ⟨hi, hget⟩ := List.getElem?_eq_some_iff.mp hr
    have hcompleting := (List.getElem_cons_eraseIdx_perm hi).symm
    rw [hget] at hcompleting
    exact (hcompleting.append_left _).trans List.perm_middle
  have hnodup := List.nodup_cons.mp (hinUse.nodup_iff.mp h.inUse)
  obtain ⟨hhanded, hmem⟩ := h.handed r (hinUse.mem_iff.mpr List.mem_cons_self)
  have hfreed := h.freed hqueued hnewest
  have hkept : ∀ q ∈ s.queued.erase r ++ (s.held ++ s.dispatchQueue.elems),
      q.serial ≠ r.serial := by
    intro q hq
    rcases List.mem_append.mp hq with hq | hwaits
    · exact (h.others_ne hqueued q (herase ▸ hq)).2
    · refine h.serial_ne (h.pushed_of_mem ?_) (h.pushed_of_mem ?_) ?_
      · rw [List.append_assoc]
        exact List.mem_append_right _ hwaits
      · exact List.mem_append_left _ (List.mem_append_left _ hmem)
      · exact fun heq => h.not_waiting hhanded (heq ▸ hwaits)
  refine ⟨haccounted, h.records, hnodup.2, ?_, ?_, ?_, ?_, ?_, ?_⟩
  · intro q hq
    obtain ⟨hq₁, hq₂⟩ := h.handed q (hinUse.mem_iff.mpr (List.mem_cons_of_mem _ hq))
    have hne : q ≠ r := fun heq => hnodup.1 (heq ▸ hq)
    exact ⟨hq₁, (List.mem_erase_of_ne hne).mpr hq₂⟩
  · exact h.nodup.erase r
  · exact fun q hq => h.started q (List.mem_of_mem_erase hq)
  · show _ = (s.queued.erase r).reverse
    rw [herase]
    exact h.dequeued hqueued hnewest
  · intro q hq
    exact (kept hfreed (hkept q (List.mem_append_left _ hq))).1.trans
      (h.requests q (List.mem_of_mem_erase hq))
  · intro q hq
    have hq' : q ∈ s.queued.erase r ++ s.held ++ s.dispatchQueue.elems := hq
    rw [List.append_assoc] at hq'
    refine (kept hfreed (hkept q hq')).2.trans (h.headers q ?_)
    rw [List.append_assoc]
    exact List.mem_append.mpr ((List.mem_append.mp hq').imp_left List.mem_of_mem_erase)

end

/-! ### Runs -/

section

variable {E} {m t : SapMemory} {a : SapAction}

/-- **A step** keeps the queue paired, if a request whose completion it ends is the newest with its
id and token. -/
theorem Paired.step (h : Paired m.sap m.allocated) (hnewest : m.Newest a)
    (hst : m.step E a = some t) : Paired t.sap t.allocated := by
  rw [SapMemory.allocated_step E hst]
  obtain ⟨u, hu, rfl⟩ := Option.map_eq_some_iff.mp hst
  have haccounted := sapStep_accounted E h.accounted hu
  dsimp only
  cases sapStepTo_of_step E hu with
  | pushRecord => exact h.pushRecord hu
  | dispatch => exact h.dispatch hu
  | onRequest i r hr hqueued =>
    rw [SapState.accesses, hr]
    exact h.onRequest hu
  | complete i e response fault r hr =>
    have hsame : Memory.after m.allocated (m.sap.accesses E (.complete i e response fault))
        = m.allocated := by
      rw [SapState.accesses]
      cases (m.sap.outstanding[i]?).filter fun r => r.socketId == rilSocket1 with
      | none => rfl
      | some q => exact after_completionReads
    rw [hsame]
    exact h.complete hu
  | dequeueCompleted i r hr =>
    rw [SapState.accesses, hr]
    exact h.dequeueCompleted hr (hnewest r hr)
  | connect =>
    exact h.congr haccounted rfl rfl rfl (List.Perm.refl _) rfl (fun _ hr => hr) fun _ hr => hr
  | rejectPeer =>
    refine h.congr haccounted rfl rfl rfl ?_ rfl (fun _ hr => hr) fun _ hr => hr
    unfold SapState.inUse
    rw [own_disconnect]
    exact List.Perm.refl _
  | closeCommands =>
    refine h.congr haccounted rfl rfl rfl ?_ rfl (fun _ hr => hr) fun _ hr => hr
    unfold SapState.inUse
    rw [own_disconnect]
    exact List.Perm.refl _
  | dequeue q rest hidle helems =>
    refine h.congr haccounted rfl rfl rfl (List.Perm.refl _) rfl
      (fun r hr => List.mem_append_left _ hr) fun r hr => ?_
    rw [helems]
    simpa using hr

/-- **Nothing that was freed is read**, while the queue is paired. -/
theorem Paired.sound (h : Paired m.sap m.allocated) (hst : m.step E a = some t) :
    Memory.Sound m.allocated (m.sap.accesses E a) := by
  obtain ⟨u, hu, -⟩ := Option.map_eq_some_iff.mp hst
  have hqueued : ∀ r ∈ m.sap.queued, m.allocated (.request r.serial) = true ∧
      m.allocated (.header r.serial) = true := fun r hr =>
    ⟨h.requests r hr, h.headers r (List.mem_append_left _ (List.mem_append_left _ hr))⟩
  have hheld : ∀ r ∈ m.sap.held, m.allocated (.header r.serial) = true := fun r hr =>
    h.headers r (List.mem_append_left _ (List.mem_append_right _ hr))
  cases sapStepTo_of_step E hu with
  | connect | rejectPeer | closeCommands | dequeue => exact trivial
  | pushRecord record =>
    rw [SapState.accesses]
    split
    · exact ⟨trivial, trivial⟩
    · exact trivial
  | dispatch i r hr =>
    have hheader : Access.after m.allocated (.alloc (.request r.serial)) (.header r.serial) = true :=
      Memory.alloc_of_allocated (.request r.serial) (hheld r (List.mem_of_getElem? hr))
    rw [SapState.accesses, hr]
    exact ⟨trivial, hheader, trivial⟩
  | onRequest i r hr =>
    rw [SapState.accesses, hr]
    exact ⟨hheld r (List.mem_of_getElem? hr), trivial⟩
  | complete i e response fault r hr =>
    rw [SapState.accesses, hr, Option.filter_some]
    split
    · rename_i hid
      have hown : r ∈ m.sap.own := List.mem_filter.mpr ⟨List.mem_of_getElem? hr, hid⟩
      obtain ⟨hrequest, hheader⟩ := hqueued r (h.handed r (List.mem_append_left _ hown)).2
      exact sound_completionReads hrequest hheader
    · exact trivial
  | dequeueCompleted i r hr =>
    rw [SapState.accesses, hr]
    have hmem := (h.handed r (List.mem_append_right _ (List.mem_of_getElem? hr))).2
    refine sound_dequeueAccesses (hqueued r hmem).2 fun q hq => hqueued q ?_
    rw [h.pending, List.mem_reverse] at hq
    exact hq

/-- **A step completes exactly** if and only if no request that was put on the queue later, and not
completed, has the id and the token of the one whose completion it ends. -/
theorem step_exact_iff (h : Paired m.sap m.allocated) (hst : m.step E a = some t) :
    (∀ c ∈ (m.sap.completed a).toList.map (m.completion t.sap), c.Exact) ↔ m.Newest a := by
  cases a with
  | connect | rejectPeer | pushRecord | closeCommands | dequeue | dispatch | onRequest | complete =>
    exact iff_of_true (fun c hc => absurd hc List.not_mem_nil) trivial
  | dequeueCompleted i =>
    obtain ⟨u, hu, rfl⟩ := Option.map_eq_some_iff.mp hst
    obtain ⟨r, hr, rfl⟩ := Option.map_eq_some_iff.mp hu
    obtain ⟨before, later, hqueued, herase, hlater⟩ := h.split hr
    rw [SapState.completed, hr, Option.toList_some, List.map_singleton, List.forall_mem_singleton,
      exact_iff h hqueued herase rfl, ← hlater]
    constructor
    · intro hkeys q hq
      obtain rfl := Option.some.inj (hr.symm.trans hq)
      exact hkeys
    · exact fun hnewest => hnewest r hr

end

/-- **SAP completion removes exactly its request** in every run in which a request is taken off the
queue only when no later one with its id and token is on it and not completed: nothing freed is
read.  After such a run one more step completes exactly, and reads nothing freed, exactly if it is
that of the newest. -/
theorem completions_exact {m : SapMemory}
    (h : Runs.Reaches (sapMemory E) SapMemory.Newest m) :
    ((∀ c ∈ m.completions, c.Exact) ∧ m.Sound) ∧ ∀ a t, m.step E a = some t →
      (((∀ c ∈ t.completions, c.Exact) ∧ t.Sound) ↔ m.Newest a) := by
  have hinv : Paired m.sap m.allocated ∧ (∀ c ∈ m.completions, c.Exact) ∧ m.Sound := by
    refine h.invariant (I := fun m => Paired m.sap m.allocated ∧
      (∀ c ∈ m.completions, c.Exact) ∧ m.Sound) ⟨?_, ?_, trivial⟩ ?_
    · refine ⟨⟨List.Perm.refl _, rfl, fun _ => ⟨rfl, rfl⟩⟩, ?_, List.nodup_nil, ?_, List.nodup_nil,
        ?_, rfl, ?_, ?_⟩ <;> exact fun r hr => absurd hr List.not_mem_nil
    · exact fun c hc => absurd hc List.not_mem_nil
    · rintro m t a ⟨hpaired, hexact, hsound⟩ hnewest hst
      refine ⟨hpaired.step hnewest hst, ?_, (SapMemory.sound_step E hst).mpr
        ⟨hsound, hpaired.sound hst⟩⟩
      have hnew := (step_exact_iff hpaired hst).mpr hnewest
      obtain ⟨u, -, rfl⟩ := Option.map_eq_some_iff.mp hst
      exact List.forall_mem_append.mpr ⟨hexact, hnew⟩
  obtain ⟨hpaired, hexact, hsound⟩ := hinv
  refine ⟨⟨hexact, hsound⟩, fun a t hst => ?_⟩
  have hnext : t.Sound := (SapMemory.sound_step E hst).mpr ⟨hsound, hpaired.sound hst⟩
  rw [and_iff_left hnext, ← step_exact_iff hpaired hst]
  obtain ⟨u, -, rfl⟩ := Option.map_eq_some_iff.mp hst
  exact List.forall_mem_append.trans (and_iff_right hexact)

/-! ### Three runs -/

instance (m : SapMemory) : DecidablePred m.Newest := fun a =>
  match a with
  | .dequeueCompleted i => inferInstanceAs (Decidable (∀ r ∈ m.sap.completing[i]?,
      ∀ q ∈ m.sap.queued.drop (m.sap.queued.idxOf r + 1), q.key ≠ r.key))
  | .connect _ | .rejectPeer | .pushRecord _ | .closeCommands | .dequeue | .dispatch _
  | .onRequest _ | .complete .. => .isTrue trivial

/-- A client connects, sends a request, which the UIM is given, and another one with the same id
and token, which is put on the queue. -/
def reuseToken : List SapAction :=
  [.connect 7, connectRecord 1, .dequeue, .dispatch 0, .onRequest 0, connectRecord 1, .dequeue,
    .dispatch 0]

/-- The UIM is given both, and completes the later one first. -/
theorem completions_exact_of_two : ∃ m : SapMemory,
    m.completions.map (fun c => c.request.serial) = [1, 0] ∧ (∀ c ∈ m.completions, c.Exact) ∧
      m.Sound := by
  have hrun : (Runs.exec (sapMemory shortHeaders) SapMemory.Newest (sapMemory shortHeaders).init
      (reuseToken ++ [.onRequest 0, .complete 1 0 [1] none, .dequeueCompleted 0,
        .complete 0 0 [1] none, .dequeueCompleted 0])).map
        (fun m => m.completions.map fun c => c.request.serial) = some [1, 0] := by decide +kernel
  obtain ⟨m, hm, hserials⟩ := Option.map_eq_some_iff.mp hrun
  exact ⟨m, hserials, (completions_exact shortHeaders (Runs.reaches_of_exec hm)).1⟩

/-- The completion of the earlier one frees the later one, which the UIM has been given or not. -/
theorem frees_later {actions : List SapAction}
    (h : actions = [.onRequest 0, .complete 0 0 [1] none, .dequeueCompleted 0] ∨
      actions = [.complete 0 0 [1] none, .dequeueCompleted 0]) :
    ∃ m : SapMemory, Runs.exec (sapMemory shortHeaders) (fun _ _ => True)
        (sapMemory shortHeaders).init (reuseToken ++ actions) = some m ∧
      ¬ ∀ c ∈ m.completions, c.Exact := by
  have hrun : (Runs.exec (sapMemory shortHeaders) (fun _ _ => True) (sapMemory shortHeaders).init
      (reuseToken ++ actions)).map
        (fun m => m.completions.map fun c => (c.request.serial, Memory.freed c.accesses))
      = some [(0, [.request 1, .header 0])] := by
    rcases h with rfl | rfl
    · decide +kernel
    · decide +kernel
  obtain ⟨m, hm, hfreed⟩ := Option.map_eq_some_iff.mp hrun
  refine ⟨m, hm, fun hexact => ?_⟩
  obtain ⟨c, hc, hvalue⟩ := List.map_eq_singleton_iff.mp hfreed
  obtain ⟨hserial, hblocks⟩ := Prod.mk.inj hvalue
  have hown := (hexact c (hc ▸ List.mem_singleton_self c)).freed
  rw [hserial, hblocks] at hown
  exact absurd hown (by decide)

/-- The UIM completes the earlier one first, whether it has been given the later one or not. -/
theorem earlier_completion_frees_later :
    (∃ m : SapMemory, Runs.exec (sapMemory shortHeaders) (fun _ _ => True)
        (sapMemory shortHeaders).init
        (reuseToken ++ [.onRequest 0, .complete 0 0 [1] none, .dequeueCompleted 0]) = some m ∧
      ¬ ∀ c ∈ m.completions, c.Exact) ∧
    ∃ m : SapMemory, Runs.exec (sapMemory shortHeaders) (fun _ _ => True)
        (sapMemory shortHeaders).init
        (reuseToken ++ [.complete 0 0 [1] none, .dequeueCompleted 0]) = some m ∧
      ¬ ∀ c ∈ m.completions, c.Exact :=
  ⟨frees_later (.inl rfl), frees_later (.inr rfl)⟩

end CtpCommon.Sap
