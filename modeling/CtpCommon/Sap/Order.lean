import CtpCommon.Sap.Socket

/-!
# The order of SAP requests

`Ril_queue` puts a new element at the front and takes the front off, and every connection starts a
request-loop thread that never ends.  A request is handed over in the order it was pushed only as
long as at most one waits and at most one thread holds one.

* `requests_accounted` — **PROVED**: in every run no request is lost or handed over twice: those
  handed over, held and queued are those pushed;
* `InOrder.progress` — **PROVED**: a request that waits can move; `InOrder.drains` — **PROVED**:
  the threads alone hand everything over;
* `requests_in_order` — **PROVED**: in every run in which a request is queued only when none
  waits, and dequeued only when no thread holds one, requests are handed over once each and in
  order;
* `requests_reordered` — two requests queued together, and two threads, each break the order.
-/

namespace CtpCommon.Sap

variable (E : SapEnv)

/-! ### No request is lost or repeated -/

/-- The requests handed over, held by a thread and queued, oldest first. -/
def SapState.requests (s : SapState) : List SapSocketRequest :=
  s.handed ++ s.held ++ s.dispatchQueue.elems.reverse

/-- What every run keeps: the requests pushed are accounted for and numbered in order, and there
is a thread to take them once there are any. -/
structure Accounted (s : SapState) : Prop where
  perm : s.requests.Perm s.pushed
  serial : s.pushed.map SapSocketRequest.serial = List.range s.pushed.length
  threads : s.threads = 0 → s.commandFd = -1 ∧ s.pushed = []

theorem Accounted.nodup {s : SapState} (hs : Accounted s) : s.pushed.Nodup := by
  have hnodup : (s.pushed.map SapSocketRequest.serial).Nodup := by
    rw [hs.serial]
    exact List.nodup_range
  exact hnodup.of_map _

/-- Steps that leave the requests alone. -/
theorem Accounted.congr {s t : SapState} (hs : Accounted s)
    (hqueue : t.dispatchQueue = s.dispatchQueue)
    (hheld : t.held = s.held) (hhanded : t.handed = s.handed) (hpushed : t.pushed = s.pushed)
    (hthreads : t.threads = 0 → s.threads = 0 ∧ t.commandFd = -1) : Accounted t := by
  refine ⟨?_, ?_, ?_⟩
  · unfold SapState.requests
    rw [hqueue, hheld, hhanded, hpushed]
    exact hs.perm
  · rw [hpushed]
    exact hs.serial
  · intro ht
    obtain ⟨hzero, hfd⟩ := hthreads ht
    exact ⟨hfd, hpushed.trans (hs.threads hzero).2⟩

theorem sapStep_accounted {s s' : SapState} {a : SapAction} (hs : Accounted s)
    (h : sapStep E s a = some s') : Accounted s' := by
  cases sapStepTo_of_step E h with
  | connect fd hfd => exact hs.congr rfl rfl rfl rfl fun ht => absurd ht (Nat.succ_ne_zero _)
  | rejectPeer hfd => exact hs.congr rfl rfl rfl rfl fun ht => ⟨ht, hfd⟩
  | pushRecord record hfd =>
    unfold pushRecord
    split
    · exact hs
    · rename_i reqHeader _
      refine ⟨?_, ?_, fun ht => absurd (hs.threads ht).1 hfd⟩
      · show (s.handed ++ s.held ++ (_ :: s.dispatchQueue.elems).reverse).Perm _
        rw [List.reverse_cons, ← List.append_assoc]
        exact hs.perm.append_right _
      · show (s.pushed ++ [_]).map SapSocketRequest.serial = List.range (s.pushed ++ [_]).length
        rw [List.map_append, hs.serial, List.length_append, List.length_singleton,
          List.range_succ]
        rfl
  | closeCommands hfd => exact hs.congr rfl rfl rfl rfl fun ht => ⟨ht, rfl⟩
  | dequeue r q hidle helems =>
    refine ⟨?_, hs.serial, hs.threads⟩
    refine List.Perm.trans ?_ hs.perm
    unfold SapState.requests
    rw [helems, List.reverse_cons, List.append_assoc s.handed, List.append_assoc s.handed]
    refine List.Perm.append_left _ ?_
    show (s.held ++ [r] ++ q.elems.reverse).Perm (s.held ++ (q.elems.reverse ++ [r]))
    rw [List.append_assoc]
    exact List.Perm.append_left _ List.perm_append_comm
  | dispatch i r hr hqueued => exact hs.congr rfl rfl rfl rfl fun ht => ⟨ht, (hs.threads ht).1⟩
  | onRequest i r hr hqueued =>
    refine ⟨?_, hs.serial, hs.threads⟩
    refine List.Perm.trans ?_ hs.perm
    unfold SapState.requests
    refine List.Perm.append_right _ ?_
    show (s.handed ++ [r] ++ s.held.eraseIdx i).Perm (s.handed ++ s.held)
    rw [List.append_assoc]
    refine List.Perm.append_left _ ?_
    obtain ⟨hi, rfl⟩ := List.getElem?_eq_some_iff.mp hr
    exact List.getElem_cons_eraseIdx_perm hi
  | complete i e response fault r hr =>
    obtain ⟨channel, sent, heq, -⟩ := sOnRequestComplete_spec E r e response fault
      { s with outstanding := s.outstanding.eraseIdx i }
    rw [heq]
    exact hs.congr rfl rfl rfl rfl fun ht => ⟨ht, (hs.threads ht).1⟩
  | dequeueCompleted i r hr =>
    exact hs.congr rfl rfl rfl rfl fun ht => ⟨ht, (hs.threads ht).1⟩

/-- **No request is lost, and none is handed over twice**, in any run. -/
theorem requests_accounted {s : SapState} (h : Runs.Reachable (sapSystem E) s) :
    s.requests.Perm s.pushed ∧ s.handed.Nodup := by
  have hs : Accounted s := h.invariant (I := Accounted)
    ⟨List.Perm.refl _, rfl, fun _ => ⟨rfl, rfl⟩⟩ fun hs _ hst => sapStep_accounted E hs hst
  refine ⟨hs.perm, ?_⟩
  have hnodup : s.requests.Nodup := hs.perm.nodup_iff.mpr hs.nodup
  unfold SapState.requests at hnodup
  rw [List.append_assoc] at hnodup
  exact (List.nodup_append.mp hnodup).1

/-! ### The order -/

/-- A request is queued only when none waits, and dequeued only when no thread holds one. -/
def Sequential (s : SapState) : SapAction → Prop
  | .pushRecord record => (E.pbDecode record).isSome = true → s.dispatchQueue.elems = []
  | .dequeue => s.held = []
  | _ => True

/-- At most one request waits and at most one is held, and all are in order. -/
structure InOrder (s : SapState) : Prop extends Accounted s where
  order : s.requests = s.pushed
  waiting : s.dispatchQueue.elems.length ≤ 1
  holding : s.held.length ≤ 1

theorem InOrder.congr {s t : SapState} (hs : InOrder s) (ht : Accounted t)
    (hqueue : t.dispatchQueue = s.dispatchQueue) (hheld : t.held = s.held)
    (hhanded : t.handed = s.handed) (hpushed : t.pushed = s.pushed) : InOrder t := by
  obtain ⟨-, horder, hwaiting, hholding⟩ := hs
  unfold SapState.requests at horder
  refine ⟨ht, ?_, hqueue ▸ hwaiting, hheld ▸ hholding⟩
  unfold SapState.requests
  rw [hqueue, hheld, hhanded, hpushed]
  exact horder

/-- The held request is the oldest that has not been handed over. -/
theorem InOrder.onRequest {s : SapState} {i : ℕ} {r : SapSocketRequest} (hs : InOrder s)
    (hr : s.held[i]? = some r) (hqueued : r ∈ s.queued) :
    InOrder (callOnRequest r { s with held := s.held.eraseIdx i }) ∧ s.held = [r] := by
  have hone : s.held = [r] ∧ i = 0 := by
    have hlen := hs.holding
    rcases hheld : s.held with _ | ⟨q, _ | ⟨p, rest⟩⟩
    · rw [hheld] at hr
      exact absurd hr (by simp)
    · rw [hheld] at hr
      cases i with
      | zero => exact ⟨by rw [← Option.some.inj hr], rfl⟩
      | succ i => exact absurd hr (by simp)
    · rw [hheld] at hlen
      exact absurd hlen (by simp)
  obtain ⟨hheld, rfl⟩ := hone
  have hacc : Accounted (callOnRequest r { s with held := s.held.eraseIdx 0 }) :=
    sapStep_accounted ⟨fun _ => none, fun _ => none⟩ (a := .onRequest 0) hs.toAccounted
      (by simp only [sapStep, hr, Option.bind_some, if_pos hqueued])
  refine ⟨⟨hacc, ?_, hs.waiting, ?_⟩, hheld⟩
  · refine Eq.trans ?_ hs.order
    unfold SapState.requests
    show (s.handed ++ [r]) ++ s.held.eraseIdx 0 ++ s.dispatchQueue.elems.reverse = _
    rw [hheld]
    simp
  · show (s.held.eraseIdx 0).length ≤ 1
    rw [hheld]
    exact Nat.zero_le _

/-- The queued request is the oldest when no thread holds one. -/
theorem InOrder.dequeue {s s' : SapState} (hs : InOrder s) (hheld : s.held = [])
    (h : sapStep E s .dequeue = some s') :
    InOrder s' ∧ s'.pushed = s.pushed ∧ s'.dispatchQueue.elems = [] := by
  have hacc := sapStep_accounted E hs.toAccounted h
  cases sapStepTo_of_step E h with
  | dequeue r q hidle helems =>
    have hlen := hs.waiting
    rw [helems, List.length_cons] at hlen
    have hs₂ : q.elems = [] := List.eq_nil_of_length_eq_zero (by omega)
    have hs₁ : s.dispatchQueue.elems = [r] := by rw [helems, hs₂]
    refine ⟨⟨hacc, ?_, ?_, ?_⟩, rfl, hs₂⟩
    · refine Eq.trans ?_ hs.order
      unfold SapState.requests
      show s.handed ++ (s.held ++ [r]) ++ q.elems.reverse = _
      rw [hs₁, hs₂, hheld]
      simp
    · show q.elems.length ≤ 1
      rw [hs₂]
      exact Nat.zero_le _
    · show (s.held ++ [r]).length ≤ 1
      rw [hheld]
      exact Nat.le_refl _

/-- **Every sequential step keeps the order.** -/
theorem sapStep_inOrder {s s' : SapState} {a : SapAction} (hs : InOrder s)
    (hok : Sequential E s a) (h : sapStep E s a = some s') : InOrder s' := by
  have hacc := sapStep_accounted E hs.toAccounted h
  cases sapStepTo_of_step E h with
  | connect | rejectPeer | closeCommands => exact hs.congr hacc rfl rfl rfl rfl
  | pushRecord record hfd =>
    rcases hdecode : E.pbDecode record with _ | reqHeader
    · have hsame : pushRecord E record s = s := by
        unfold pushRecord
        rw [hdecode]
      rw [hsame]
      exact hs
    · have hempty := hok (by rw [hdecode]; rfl)
      have horder := hs.order
      unfold SapState.requests at horder
      rw [hempty, List.reverse_nil, List.append_nil] at horder
      unfold pushRecord at hacc ⊢
      rw [hdecode] at hacc ⊢
      refine ⟨hacc, ?_, ?_, hs.holding⟩
      · show s.handed ++ s.held ++ (_ :: s.dispatchQueue.elems).reverse = s.pushed ++ [_]
        rw [hempty, ← horder]
        rfl
      · show (_ :: s.dispatchQueue.elems).length ≤ 1
        rw [hempty]
        exact Nat.le_refl _
  | dequeue => exact (hs.dequeue E hok h).1
  | dispatch => exact hs.congr hacc rfl rfl rfl rfl
  | onRequest i r hr hqueued => exact (hs.onRequest hr hqueued).1
  | complete i e response fault r hr =>
    obtain ⟨channel, sent, heq, -⟩ := sOnRequestComplete_spec E r e response fault
      { s with outstanding := s.outstanding.eraseIdx i }
    rw [heq] at hacc ⊢
    exact hs.congr hacc rfl rfl rfl rfl
  | dequeueCompleted => exact hs.congr hacc rfl rfl rfl rfl

/-! ### Everything is handed over -/

instance (s : SapState) : DecidablePred (Sequential E s) := fun a =>
  match a with
  | .pushRecord record =>
      inferInstanceAs (Decidable
        ((E.pbDecode record).isSome = true → s.dispatchQueue.elems = []))
  | .dequeue => inferInstanceAs (Decidable (s.held = []))
  | .connect _ | .rejectPeer | .closeCommands | .dispatch _ | .onRequest _ | .complete ..
  | .dequeueCompleted _ => .isTrue trivial

/-- The steps of the request-loop threads. -/
def ThreadStep : SapAction → Prop
  | .dequeue | .dispatch _ | .onRequest _ => True
  | _ => False

/-- The steps the requests not handed over still need. -/
def SapState.backlog (s : SapState) : ℕ :=
  (s.held.filter (· ∉ s.queued)).length + s.held.length + 3 * s.dispatchQueue.elems.length

/-- **A request that waits can move.** -/
theorem InOrder.progress {s : SapState} (hs : InOrder s) (hne : s.handed ≠ s.pushed) :
    ∃ a t, ThreadStep a ∧ Sequential E s a ∧ sapStep E s a = some t ∧
      t.pushed = s.pushed ∧ t.backlog < s.backlog := by
  rcases hheld : s.held with _ | ⟨r, rest⟩
  · rcases helems : s.dispatchQueue.elems with _ | ⟨q, waiting⟩
    · exfalso
      apply hne
      rw [← hs.order]
      unfold SapState.requests
      rw [hheld, helems]
      simp
    · have hthreads : s.threads ≠ 0 := by
        intro hzero
        have hnil := hs.order.trans (hs.threads hzero).2
        unfold SapState.requests at hnil
        rw [helems] at hnil
        exact absurd hnil (by simp)
      have hidle : s.held.length < s.threads := by
        rw [hheld]
        exact Nat.pos_of_ne_zero hthreads
      have hdeq : s.dispatchQueue.dequeue = some (q, ⟨waiting⟩) := by
        unfold RilQueue.dequeue
        rw [helems]
      refine ⟨.dequeue, { s with dispatchQueue := ⟨waiting⟩, held := s.held ++ [q] }, trivial,
        hheld, ?_, rfl, ?_⟩
      · simp only [sapStep, if_pos hidle, hdeq, Option.map_some]
      · have hfilter := List.length_filter_le (fun r => decide (r ∉ s.queued)) (s.held ++ [q])
        unfold SapState.backlog
        show ((s.held ++ [q]).filter (· ∉ s.queued)).length + (s.held ++ [q]).length
          + 3 * waiting.length < _
        rw [hheld, helems]
        rw [hheld] at hfilter
        simp only [List.nil_append, List.length_nil, List.length_cons] at hfilter ⊢
        omega
  · have hr : s.held[0]? = some r := by rw [hheld]; rfl
    by_cases hqueued : r ∈ s.queued
    · obtain ⟨hnext, hone⟩ := hs.onRequest hr hqueued
      refine ⟨.onRequest 0, callOnRequest r { s with held := s.held.eraseIdx 0 }, trivial, trivial,
        by simp only [sapStep, hr, Option.bind_some, if_pos hqueued], rfl, ?_⟩
      unfold SapState.backlog
      show ((s.held.eraseIdx 0).filter (· ∉ s.queued)).length + (s.held.eraseIdx 0).length
        + 3 * s.dispatchQueue.elems.length < _
      rw [hone]
      simp
    · have hone : s.held = [r] := by
        have hlen := hs.holding
        rw [hheld, List.length_cons] at hlen
        rw [hheld, List.eq_nil_of_length_eq_zero (by omega : rest.length = 0)]
      refine ⟨.dispatch 0, dispatchRequest r s, trivial, trivial,
        by simp only [sapStep, hr, Option.bind_some, if_neg hqueued], rfl, ?_⟩
      unfold SapState.backlog
      show (s.held.filter (· ∉ s.queued ++ [r])).length + s.held.length
        + 3 * s.dispatchQueue.elems.length < _
      rw [hone]
      simp [hqueued]

/-- **The threads alone hand everything over**, by sequential steps. -/
theorem InOrder.drains {s : SapState} (hs : InOrder s) :
    ∃ as t, (∀ a ∈ as, ThreadStep a) ∧
      Runs.exec (sapSystem E) (Sequential E) s as = some t ∧ t.handed = s.pushed := by
  induction hn : s.backlog using Nat.strong_induction_on generalizing s with
  | _ n ih =>
    by_cases hdone : s.handed = s.pushed
    · exact ⟨[], s, by simp, rfl, hdone⟩
    · obtain ⟨a, t, ha, hok, hstep, hpushed, hlt⟩ := hs.progress E hdone
      obtain ⟨as, u, hall, hrun, hu⟩ := ih _ (hn ▸ hlt) (sapStep_inOrder E hs hok hstep) rfl
      refine ⟨a :: as, u, ?_, ?_, hu.trans hpushed⟩
      · intro b hb
        rcases List.mem_cons.mp hb with rfl | hb
        · exact ha
        · exact hall b hb
      · simp only [Runs.exec, if_pos hok]
        rw [show (sapSystem E).step s a = some t from hstep]
        exact hrun

/-- **SAP requests are handed over in the order they were pushed**, once each, in every run in
which a request is queued only when none waits and dequeued only when no thread holds one; and
from every state of such a run the threads hand over all that was pushed. -/
theorem requests_in_order {s : SapState}
    (h : Runs.Reaches (sapSystem E) (Sequential E) s) :
    s.handed <+: s.pushed ∧ s.pushed.Nodup ∧
      ∃ as t, (∀ a ∈ as, ThreadStep a) ∧
        Runs.exec (sapSystem E) (Sequential E) s as = some t ∧ t.handed = s.pushed := by
  have hs : InOrder s := h.invariant (I := InOrder)
    ⟨⟨List.Perm.refl _, rfl, fun _ => ⟨rfl, rfl⟩⟩, rfl, Nat.zero_le _, Nat.zero_le _⟩
    (sapStep_inOrder E)
  refine ⟨?_, hs.nodup, hs.drains E⟩
  rw [← hs.order]
  unfold SapState.requests
  rw [List.append_assoc]
  exact List.prefix_append _ _

/-! ### Three runs -/

/-- The protobuf library on headers whose token, id and error are one byte, with no payload in a
request and a short one in a response. -/
def shortHeaders : SapEnv where
  pbDecode
    | [8, token, 16, 1, 24, id, 32, error, 42, 0] =>
        if token < 128 ∧ id < 128 ∧ error < 128 then
          some ⟨token.toNat, .request, id.toNat, error.toNat, []⟩ else none
    | _ => none
  pbEncode hdr :=
    if 0 ≤ hdr.token ∧ hdr.token < 128 ∧ hdr.type = .response ∧ hdr.id < 128 ∧ 0 ≤ hdr.error ∧
        hdr.error < 128 ∧ hdr.payload.length < 128 then
      some ([8, UInt8.ofNat hdr.token.toNat, 16, 2, 24, UInt8.ofNat hdr.id, 32,
        UInt8.ofNat hdr.error.toNat, 42, UInt8.ofNat hdr.payload.length] ++ hdr.payload)
    else none

/-- `RIL_SIM_SAP_CONNECT` with the given token. -/
def connectRecord (token : UInt8) : SapAction := .pushRecord [8, token, 16, 1, 24, 1, 32, 0, 42, 0]

/-- A request pushed while the one before it is held keeps its place. -/
theorem second_request_in_order : ∃ s : SapState, s.pushed.length = 2 ∧ s.handed.length = 1 ∧
    s.handed <+: s.pushed := by
  have hrun : (Runs.exec (sapSystem shortHeaders) (Sequential shortHeaders) sapInit
      [.connect 7, connectRecord 1, .dequeue, connectRecord 2, .dispatch 0, .onRequest 0,
        .dequeue]).map
      (fun s => (s.pushed.length, s.handed.length)) = some (2, 1) := by decide +kernel
  obtain ⟨s, hs, hlen⟩ := Option.map_eq_some_iff.mp hrun
  obtain ⟨hpushed, hhanded⟩ := Prod.mk.inj hlen
  exact ⟨s, hpushed, hhanded, (requests_in_order shortHeaders (Runs.reaches_of_exec hs)).1⟩

/-- **Either condition is needed**: one thread hands two requests that waited together over in
reverse, and so may two threads that hold one each. -/
theorem requests_reordered :
    (∃ s, Runs.Reachable (sapSystem shortHeaders) s ∧ s.threads = 1 ∧
      ¬ s.handed <+: s.pushed) ∧
      ∃ s, Runs.Reachable (sapSystem shortHeaders) s ∧ s.threads = 2 ∧
        ¬ s.handed <+: s.pushed := by
  refine ⟨?_, ?_⟩
  · have hrun : (Runs.exec (sapSystem shortHeaders) (fun _ _ => True) sapInit
        [.connect 7, connectRecord 1, connectRecord 2, .dequeue, .dispatch 0,
          .onRequest 0]).map
        (fun s => (s.threads, decide (s.handed <+: s.pushed))) = some (1, false) := by
      decide +kernel
    obtain ⟨s, hs, hval⟩ := Option.map_eq_some_iff.mp hrun
    obtain ⟨hthreads, hnot⟩ := Prod.mk.inj hval
    exact ⟨s, Runs.reaches_of_exec hs, hthreads, of_decide_eq_false hnot⟩
  · have hrun : (Runs.exec (sapSystem shortHeaders) (fun _ _ => True) sapInit
        [.connect 7, .closeCommands, .connect 7, connectRecord 1, .dequeue, connectRecord 2,
          .dequeue, .dispatch 1, .onRequest 1]).map
        (fun s => (s.threads, decide (s.handed <+: s.pushed))) = some (2, false) := by
      decide +kernel
    obtain ⟨s, hs, hval⟩ := Option.map_eq_some_iff.mp hrun
    obtain ⟨hthreads, hnot⟩ := Prod.mk.inj hval
    exact ⟨s, Runs.reaches_of_exec hs, hthreads, of_decide_eq_false hnot⟩

end CtpCommon.Sap
