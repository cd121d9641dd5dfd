import CtpCommon.Lib.Sessions
import CtpCommon.Ril.Dispatch

/-!
# Responses and connections

`RIL_onRequestComplete` runs on a vendor's thread, and takes three steps that the event loop may
come between: it dequeues the request under `s_pendingRequestsMutex`, it tests `cancelled`, and it
sends the response to whatever `fdCommand` is then.  `onCommandsSocketClosed` marks the requests
that are still on the list.

* `completionMessage` — the middle step; `rilOnRequestComplete_eq` — **PROVED**: the three steps
  with nothing between them are `rilOnRequestComplete`;
* `receive` — one record; `receive_ril` — **PROVED**: on the requests it is
  `processCommandBuffer`;
* `isolationSystem` — connections, rejected peers, records and completions in any order;
  `isolationStepTo_of_step` — **PROVED**: what a step can be;
* `responses_isolated` — **PROVED**: a response goes to the connection its request came from, in
  every run in which no connection is accepted while a completion of an uncancelled request is
  under way;
* `response_crosses` — a run in which it does not: the mark misses a request that has been
  dequeued.
-/

namespace CtpCommon.Ril

open Sessions

/-! ### The state -/

/-- A completion between its dequeue and its test of `cancelled`. -/
structure Completion where
  request : RequestInfo
  e : Int
  response : Option ResponseMemory
  responselen : ℕ

/-- The requests, the number of connections accepted so far, whether the event loop has closed
one and not yet marked its requests, and the completions under way on other threads: dequeued, or
encoded and about to be sent.  `owner` remembers on which connection the request at an address
was received, and `sent` the connections of the request and of the socket for every response. -/
structure IsolationState where
  ril : RilState
  connection : ℕ
  closing : Bool
  dequeued : List Completion
  encoded : List (ℕ × List UInt8)
  owner : ℕ → ℕ
  sent : List (ℕ × ℕ)

variable (P : Platform) (version : Int)

/-! ### The parts of a completion -/

/-- The test of `cancelled` and the encoding: the message to be sent, if there is one. -/
def completionMessage (ril : RilState) (c : Completion) :
    Option (RilState × Option (List UInt8)) :=
  if c.request.isLocal then some (ril, none)
  else if c.request.cancelled then some (ril, none)
  else
    (encodeCompletion (ril.encodeEnv P version) c.request c.e c.response c.responselen).map
      fun x => (x.2.effects ril, some x.1.data)

/-- The encoding, and what is dropped, changes the requests by the effects of an encoder. -/
theorem completionMessage_effects {ril : RilState} {c : Completion}
    {x : RilState × Option (List UInt8)} (h : completionMessage P version ril c = some x) :
    ∃ y : Encoded, x.1 = y.effects ril := by
  have hdrop : ril = Encoded.effects { writes := [] } ril := rfl
  unfold completionMessage at h
  split at h
  · obtain rfl := Option.some.inj h
    exact ⟨_, hdrop⟩
  split at h
  · obtain rfl := Option.some.inj h
    exact ⟨_, hdrop⟩
  · obtain ⟨y, -, rfl⟩ := Option.map_eq_some_iff.mp h
    exact ⟨y.2, rfl⟩

/-- `sendResponse` to the current `fdCommand`. -/
def RilState.sendResponse (ril : RilState) (data : List UInt8) (faults : WriteFaults) : RilState :=
  { ril with channel := ril.channel ++ (sendResponseRaw ril.fdCommand data faults).2 }

/-- **The three steps are `RIL_onRequestComplete`.** -/
theorem rilOnRequestComplete_eq (s : RilState) (t : ℕ) (e : Int)
    (response : Option ResponseMemory) (responselen : ℕ) (faults : WriteFaults) :
    rilOnRequestComplete P version s t e response responselen faults
      = match checkAndDequeueRequestInfo s.pending t with
        | none => some s
        | some (r, pending) =>
            (completionMessage P version { s with pending := pending }
              ⟨r, e, response, responselen⟩).map fun x =>
                match x.2 with
                | none => x.1
                | some data => x.1.sendResponse data faults := by
  unfold rilOnRequestComplete completionMessage
  rcases checkAndDequeueRequestInfo s.pending t with _ | ⟨r, pending⟩
  · rfl
  · rcases hlocal : r.isLocal with _ | _
    · rcases hcancelled : r.cancelled with _ | _
      · simp only [hlocal, hcancelled, Bool.false_eq_true, if_false, Option.map_map]
        rfl
      · simp only [hlocal, hcancelled, Bool.false_eq_true, if_false, if_true, Option.map_some]
    · simp only [hlocal, if_true, Option.map_some]

/-- Send the response to a request received on the connection `origin`. -/
def respond (origin : ℕ) (data : List UInt8) (faults : WriteFaults) (s : IsolationState) :
    IsolationState :=
  { s with
    ril := s.ril.sendResponse data faults
    sent := if (sendResponseRaw s.ril.fdCommand data faults).2 = [] then s.sent
      else s.sent ++ [(origin, s.connection)] }

/-- A completion with nothing between its steps, as the dispatch functions call it. -/
def completeNow (s : IsolationState) (t : ℕ) (e : Int) (response : Option ResponseMemory)
    (responselen : ℕ) (faults : WriteFaults) : Option IsolationState :=
  match checkAndDequeueRequestInfo s.ril.pending t with
  | none => some s
  | some (r, pending) =>
      (completionMessage P version { s.ril with pending := pending }
        ⟨r, e, response, responselen⟩).map fun x =>
          match x.2 with
          | none => { s with ril := x.1 }
          | some data => respond (s.owner r.addr) data faults { s with ril := x.1 }

/-! ### One record -/

variable (env : DispatchEnv)

/-- One effect of a dispatch function. -/
def performNow (faults : WriteFaults) (r : RequestInfo) (s : IsolationState) :
    DispatchEffect → Option IsolationState
  | .onRequestComplete e response =>
      completeNow env.platform env.version s r.addr e (response.map intMemory)
        (if response.isSome then wordSize else 0) faults
  | effect => (perform env faults r s.ril effect).map fun ril => { s with ril := ril }

/-- A request on the list, received on the current connection. -/
def pushRequest (token : Int) (request : RequestCode) (s : IsolationState) : IsolationState :=
  { s with
    ril := { s.ril with pending := s.ril.pending.push token request false }
    owner := Function.update s.owner s.ril.pending.fresh s.connection }

/-- `processCommandBuffer` on a record of the current connection. -/
def receive (faults : WriteFaults) (s : IsolationState) (buffer : List UInt8) :
    Option IsolationState :=
  match readRecord buffer with
  | .invalid => some s
  | .unsupported token =>
      let pErr := (messageHead token).writeInt32 rilEGenericFailure
      some (respond s.connection pErr.data faults s)
  | .accepted token request p =>
      let r := s.ril.pending.node token request false
      (dispatch env request.dispatchFunction p).foldlM (performNow env faults r)
        (pushRequest token request s)

theorem completeNow_ril (s : IsolationState) (t : ℕ) (e : Int)
    (response : Option ResponseMemory) (responselen : ℕ) (faults : WriteFaults) :
    (completeNow P version s t e response responselen faults).map IsolationState.ril
      = rilOnRequestComplete P version s.ril t e response responselen faults := by
  rw [rilOnRequestComplete_eq]
  unfold completeNow
  rcases checkAndDequeueRequestInfo s.ril.pending t with _ | ⟨r, pending⟩
  · rfl
  · rw [Option.map_map]
    refine Option.map_congr ?_
    rintro ⟨ril, m⟩ -
    cases m <;> rfl

theorem performNow_ril (faults : WriteFaults) (r : RequestInfo) (s : IsolationState)
    (effect : DispatchEffect) : (performNow env faults r s effect).map IsolationState.ril
      = perform env faults r s.ril effect := by
  cases effect with
  | onRequestComplete e response => exact completeNow_ril _ _ _ _ _ _ _ _
  | setRadioIsOn isOn => rfl
  | setVoiceRadioTech tech => rfl
  | setCdmaSubscriptionSource source => rfl
  | onRequest data datalen => rfl

/-- **On the requests a record does what `processCommandBuffer` does.** -/
theorem receive_ril (faults : WriteFaults) (s : IsolationState) (buffer : List UInt8) :
    (receive env faults s buffer).map IsolationState.ril
      = processCommandBuffer env faults s.ril buffer := by
  have hfold : ∀ (r : RequestInfo) (effects : List DispatchEffect) (s : IsolationState),
      (effects.foldlM (performNow env faults r) s).map IsolationState.ril
        = effects.foldlM (perform env faults r) s.ril := by
    intro r effects
    induction effects with
    | nil => intro s; rfl
    | cons effect effects ih =>
      intro s
      rw [List.foldlM_cons, List.foldlM_cons, ← performNow_ril env faults r s effect]
      rcases performNow env faults r s effect with _ | t
      · rfl
      · exact ih t
  unfold receive processCommandBuffer
  rcases readRecord buffer with _ | token | ⟨token, request, p⟩
  · rfl
  · rfl
  · exact hfold _ _ _

/-! ### Runs -/

inductive IsolationAction where
  | accept (fdCommand : ℕ)
  | rejectPeer
  | record (radioState : RadioState) (t : Int) (ut : UInt8) (faults : WriteFaults)
      (buffer : List UInt8)
  | closeCommands
  | socketClosed
  | dequeue (t : ℕ) (e : Int) (response : Option ResponseMemory) (responselen : ℕ)
  | testCancelled (i : ℕ)
  | sendResponse (i : ℕ) (faults : WriteFaults)

/-- The event loop listens: it has no connection, and is not closing one. -/
def Listening (s : IsolationState) : Prop := s.ril.fdCommand < 0 ∧ s.closing = false

instance (s : IsolationState) : Decidable (Listening s) := inferInstanceAs (Decidable (_ ∧ _))

def onCommandsSocketClosed (s : IsolationState) : IsolationState :=
  { s with ril := { s.ril with pending := s.ril.pending.cancelAll }, closing := false }

/-- One step, of the event loop or of a completion. -/
def isolationStep (s : IsolationState) : IsolationAction → Option IsolationState
  | .accept fdCommand =>
      if Listening s then some { s with
        ril := { s.ril with fdCommand := fdCommand }
        connection := s.connection + 1 } else none
  | .rejectPeer => if Listening s then some (onCommandsSocketClosed s) else none
  | .record radioState t ut faults buffer =>
      if 0 ≤ s.ril.fdCommand then receive ⟨P, version, radioState, t, ut⟩ faults s buffer else none
  | .closeCommands =>
      if 0 ≤ s.ril.fdCommand then some { s with
        ril := { s.ril with fdCommand := -1 }
        closing := true } else none
  | .socketClosed => if s.closing then some (onCommandsSocketClosed s) else none
  | .dequeue t e response responselen =>
      match checkAndDequeueRequestInfo s.ril.pending t with
      | none => some s
      | some (r, pending) => some { s with
          ril := { s.ril with pending := pending }
          dequeued := s.dequeued ++ [⟨r, e, response, responselen⟩] }
  | .testCancelled i =>
      s.dequeued[i]?.bind fun c =>
        (completionMessage P version s.ril c).map fun x => { s with
          ril := x.1
          dequeued := s.dequeued.eraseIdx i
          encoded := s.encoded ++ x.2.toList.map fun data => (c.request.addr, data) }
  | .sendResponse i faults =>
      s.encoded[i]?.map fun m =>
        respond (s.owner m.1) m.2 faults { s with encoded := s.encoded.eraseIdx i }

/-- After `RIL_register`. -/
def isolationInit : IsolationState where
  ril := ⟨PendingRequests.empty, -1, [], [], false, 0, -1, -1⟩
  connection := 0
  closing := false
  dequeued := []
  encoded := []
  owner := fun _ => 0
  sent := []

def isolationSystem : Runs.System IsolationState IsolationAction :=
  ⟨isolationInit, isolationStep P version⟩

/-- The steps of `isolationStep`. -/
inductive IsolationStepTo (s : IsolationState) : IsolationAction → IsolationState → Prop
  | accept (fdCommand : ℕ) : Listening s →
      IsolationStepTo s (.accept fdCommand) { s with
        ril := { s.ril with fdCommand := fdCommand }
        connection := s.connection + 1 }
  | rejectPeer : Listening s → IsolationStepTo s .rejectPeer (onCommandsSocketClosed s)
  | record {t : IsolationState} (radioState : RadioState) (time : Int) (ut : UInt8)
      (faults : WriteFaults) (buffer : List UInt8) : 0 ≤ s.ril.fdCommand →
      receive ⟨P, version, radioState, time, ut⟩ faults s buffer = some t →
      IsolationStepTo s (.record radioState time ut faults buffer) t
  | closeCommands : 0 ≤ s.ril.fdCommand →
      IsolationStepTo s .closeCommands { s with
        ril := { s.ril with fdCommand := -1 }
        closing := true }
  | socketClosed : s.closing = true → IsolationStepTo s .socketClosed (onCommandsSocketClosed s)
  | dequeueNone (t : ℕ) (e : Int) (response : Option ResponseMemory) (responselen : ℕ) :
      checkAndDequeueRequestInfo s.ril.pending t = none →
      IsolationStepTo s (.dequeue t e response responselen) s
  | dequeue {r : RequestInfo} {pending : PendingRequests} (t : ℕ) (e : Int)
      (response : Option ResponseMemory) (responselen : ℕ) :
      checkAndDequeueRequestInfo s.ril.pending t = some (r, pending) →
      IsolationStepTo s (.dequeue t e response responselen) { s with
        ril := { s.ril with pending := pending }
        dequeued := s.dequeued ++ [⟨r, e, response, responselen⟩] }
  | testCancelled {c : Completion} {x : RilState × Option (List UInt8)} (i : ℕ) :
      s.dequeued[i]? = some c → completionMessage P version s.ril c = some x →
      IsolationStepTo s (.testCancelled i) { s with
        ril := x.1
        dequeued := s.dequeued.eraseIdx i
        encoded := s.encoded ++ x.2.toList.map fun data => (c.request.addr, data) }
  | sendResponse {m : ℕ × List UInt8} (i : ℕ) (faults : WriteFaults) : s.encoded[i]? = some m →
      IsolationStepTo s (.sendResponse i faults)
        (respond (s.owner m.1) m.2 faults { s with encoded := s.encoded.eraseIdx i })

/-- **Inversion**: a step is one of these. -/
theorem isolationStepTo_of_step {s s' : IsolationState} {a : IsolationAction}
    (h : isolationStep P version s a = some s') : IsolationStepTo P version s a s' := by
  cases a with
  | accept fdCommand =>
    by_cases hlisten : Listening s
    · obtain rfl := Option.some.inj ((if_pos hlisten).symm.trans h)
      exact .accept fdCommand hlisten
    · exact absurd ((if_neg hlisten).symm.trans h) (by simp)
  | rejectPeer =>
    by_cases hlisten : Listening s
    · obtain rfl := Option.some.inj ((if_pos hlisten).symm.trans h)
      exact .rejectPeer hlisten
    · exact absurd ((if_neg hlisten).symm.trans h) (by simp)
  | record radioState t ut faults buffer =>
    by_cases hfd : 0 ≤ s.ril.fdCommand
    · exact .record radioState t ut faults buffer hfd ((if_pos hfd).symm.trans h)
    · exact absurd ((if_neg hfd).symm.trans h) (by simp)
  | closeCommands =>
    by_cases hfd : 0 ≤ s.ril.fdCommand
    · obtain rfl := Option.some.inj ((if_pos hfd).symm.trans h)
      exact .closeCommands hfd
    · exact absurd ((if_neg hfd).symm.trans h) (by simp)
  | socketClosed =>
    by_cases hclosing : s.closing = true
    · obtain rfl := Option.some.inj ((if_pos hclosing).symm.trans h)
      exact .socketClosed hclosing
    · exact absurd ((if_neg hclosing).symm.trans h) (by simp)
  | dequeue t e response responselen =>
    simp only [isolationStep] at h
    split at h
    · rename_i hnone
      obtain rfl := Option.some.inj h
      exact .dequeueNone t e response responselen hnone
    · rename_i hdeq
      obtain rfl := Option.some.inj h
      exact .dequeue t e response responselen hdeq
  | testCancelled i =>
    obtain ⟨c, hc, hrest⟩ := Option.bind_eq_some_iff.mp h
    obtain ⟨x, hx, rfl⟩ := Option.map_eq_some_iff.mp hrest
    exact .testCancelled i hc hx
  | sendResponse i faults =>
    obtain ⟨m, hm, rfl⟩ := Option.map_eq_some_iff.mp h
    exact .sendResponse i faults hm

/-- A request whose response goes to its client. -/
def Awaited (r : RequestInfo) : Prop := r.isLocal = false ∧ r.cancelled = false

instance : DecidablePred Awaited := fun _ => inferInstanceAs (Decidable (_ ∧ _))

/-- No connection is accepted while a completion of an awaited request is under way. -/
def CompletionsDone (s : IsolationState) : IsolationAction → Prop
  | .accept _ => (∀ c ∈ s.dequeued, ¬ Awaited c.request) ∧ s.encoded = []
  | _ => True

/-! ### The sessions of the socket -/

/-- The connections as sessions: an item is the address of a request, and lives until it is
answered, dropped or cancelled. -/
def connections : View IsolationState ℕ where
  session := IsolationState.connection
  live s a := (∃ r ∈ s.ril.pending.nodes, r.addr = a ∧ Awaited r) ∨
    (∃ c ∈ s.dequeued, c.request.addr = a ∧ Awaited c.request) ∨ ∃ data, (a, data) ∈ s.encoded
  owner := IsolationState.owner
  log := IsolationState.sent

/-- What the steps rely on: without a connection no request on the list is awaited, and the
addresses in use are not given out again. -/
structure Settled (s : IsolationState) : Prop where
  listening : Listening s → ∀ r ∈ s.ril.pending.nodes, ¬ Awaited r
  addr : ∀ a, connections.live s a → a < s.ril.pending.fresh

/-- **What most steps do**: the connection stays, no request becomes awaited, and at most one
that was awaited is answered. -/
structure Serves (s t : IsolationState) : Prop where
  connection : t.connection = s.connection
  owner : t.owner = s.owner
  listening : Listening t → Listening s ∨ ∀ r ∈ t.ril.pending.nodes, ¬ Awaited r
  fresh : s.ril.pending.fresh ≤ t.ril.pending.fresh
  pending : ∀ r ∈ t.ril.pending.nodes, Awaited r → r ∈ s.ril.pending.nodes
  live : ∀ a, connections.live t a → connections.live s a
  sent : t.sent = s.sent ∨
    ∃ a, connections.live s a ∧ t.sent = s.sent ++ [(s.owner a, s.connection)]

theorem Serves.quiet {s t : IsolationState} (h : Serves s t) : connections.Quiet s t := by
  refine ⟨h.connection, fun a ha => .inl ⟨h.live a ha, congrFun h.owner a⟩, ?_⟩
  intro m hm
  have hmem : m ∈ t.sent := hm
  rcases h.sent with hsent | ⟨a, ha, hsent⟩
  · rw [hsent] at hmem
    exact .inl hmem
  · rw [hsent] at hmem
    rcases List.mem_append.mp hmem with hold | hnew
    · exact .inl hold
    · exact .inr (.inl ⟨a, ha, List.mem_singleton.mp hnew⟩)

theorem Serves.settled {s t : IsolationState} (h : Serves s t) (hs : Settled s) : Settled t := by
  refine ⟨?_, fun a ha => Nat.lt_of_lt_of_le (hs.addr a (h.live a ha)) h.fresh⟩
  intro hlisten r hr hawaited
  rcases h.listening hlisten with hold | hnone
  · exact hs.listening hold r (h.pending r hr hawaited) hawaited
  · exact hnone r hr hawaited

/-- An encoder adds at most a request of the program's own. -/
theorem effects_awaited (y : Encoded) (ril : RilState) :
    ril.pending.fresh ≤ (y.effects ril).pending.fresh ∧
      ∀ r ∈ (y.effects ril).pending.nodes, Awaited r → r ∈ ril.pending.nodes := by
  rcases effects_pending y ril with heq | heq
  · rw [heq]
    exact ⟨Nat.le_refl _, fun r hr _ => hr⟩
  · rw [heq]
    refine ⟨Nat.le_succ _, fun r hr hawaited => ?_⟩
    rcases List.mem_cons.mp hr with rfl | hold
    · exact absurd (show true = false from hawaited.1) (by decide)
    · exact hold

/-- Only an awaited request is answered. -/
theorem completionMessage_awaited {ril : RilState} {c : Completion}
    {x : RilState × Option (List UInt8)} (h : completionMessage P version ril c = some x)
    (hsent : x.2 ≠ none) : Awaited c.request := by
  unfold completionMessage at h
  cases hlocal : c.request.isLocal with
  | true =>
    rw [hlocal] at h
    obtain rfl := Option.some.inj h
    exact absurd rfl hsent
  | false =>
    cases hcancelled : c.request.cancelled with
    | true =>
      rw [hlocal, hcancelled] at h
      obtain rfl := Option.some.inj h
      exact absurd rfl hsent
    | false => exact ⟨hlocal, hcancelled⟩

/-- What a completion's test and encoding do to the requests: at most a local one is added. -/
theorem completionMessage_pending {ril : RilState} {c : Completion}
    {x : RilState × Option (List UInt8)} (h : completionMessage P version ril c = some x) :
    x.1.fdCommand = ril.fdCommand ∧ ril.pending.fresh ≤ x.1.pending.fresh ∧
      (∀ r ∈ x.1.pending.nodes, Awaited r → r ∈ ril.pending.nodes) ∧
      (x.2 ≠ none → Awaited c.request) := by
  obtain ⟨y, hy⟩ := completionMessage_effects P version h
  obtain ⟨hfresh, hnodes⟩ := effects_awaited y ril
  refine ⟨?_, ?_, ?_, completionMessage_awaited P version h⟩
  · rw [hy]
    exact (effects_fdCommand y ril).1
  · rw [hy]
    exact hfresh
  · rw [hy]
    exact hnodes

/-- A dequeued request was on the list, and the list keeps no others. -/
theorem checkAndDequeueRequestInfo_some {p p' : PendingRequests} {t : ℕ} {r : RequestInfo}
    (h : checkAndDequeueRequestInfo p t = some (r, p')) :
    r ∈ p.nodes ∧ p'.fresh = p.fresh ∧ ∀ q ∈ p'.nodes, q ∈ p.nodes := by
  unfold checkAndDequeueRequestInfo at h
  split at h
  · exact absurd h (by simp)
  · obtain ⟨q, hq, hqr⟩ := Option.map_eq_some_iff.mp h
    obtain ⟨rfl, rfl⟩ := Prod.mk.inj hqr
    exact ⟨List.mem_of_find?_eq_some hq, rfl, fun _ hmem => List.mem_of_mem_eraseP hmem⟩

/-! ### The steps -/

/-- Changes to the requests that leave every other part alone. -/
theorem serves_of_pending {s : IsolationState} {ril : RilState}
    (hfd : ril.fdCommand = s.ril.fdCommand)
    (hfresh : s.ril.pending.fresh ≤ ril.pending.fresh)
    (hpending : ∀ r ∈ ril.pending.nodes, Awaited r → r ∈ s.ril.pending.nodes) :
    Serves s { s with ril := ril } := by
  refine ⟨rfl, rfl, ?_, hfresh, hpending, ?_, .inl rfl⟩
  · rintro ⟨hneg, hclosing⟩
    exact .inl ⟨hfd ▸ hneg, hclosing⟩
  · rintro a (⟨r, hr, ha, hawaited⟩ | hrest)
    · exact .inl ⟨r, hpending r hr hawaited, ha, hawaited⟩
    · exact .inr hrest

/-- A response to an awaited request, sent from a state that only drops requests. -/
theorem serves_respond {s t : IsolationState} (h : Serves s t) (hsent : t.sent = s.sent) {a : ℕ}
    (ha : connections.live s a) (data : List UInt8) (faults : WriteFaults) :
    Serves s (respond (t.owner a) data faults t) := by
  refine ⟨h.connection, h.owner, h.listening, h.fresh, h.pending, h.live, ?_⟩
  by_cases hempty : (sendResponseRaw t.ril.fdCommand data faults).2 = []
  · exact .inl ((if_pos hempty).trans hsent)
  · refine .inr ⟨a, ha, (if_neg hempty).trans ?_⟩
    rw [hsent, h.owner, h.connection]

theorem completeNow_serves {s s' : IsolationState} {t : ℕ} {e : Int}
    {response : Option ResponseMemory} {responselen : ℕ} {faults : WriteFaults}
    (h : completeNow P version s t e response responselen faults = some s') : Serves s s' := by
  unfold completeNow at h
  rcases hdeq : checkAndDequeueRequestInfo s.ril.pending t with _ | ⟨r, pending⟩
  · rw [hdeq] at h
    obtain rfl := Option.some.inj h
    exact serves_of_pending rfl (Nat.le_refl _) fun r hr _ => hr
  · rw [hdeq] at h
    obtain ⟨hr, hfresh, hnodes⟩ := checkAndDequeueRequestInfo_some hdeq
    obtain ⟨⟨ril, m⟩, hx, rfl⟩ := Option.map_eq_some_iff.mp h
    obtain ⟨hfd, hfresh', hpending, hawaited⟩ := completionMessage_pending P version hx
    have hserves : Serves s { s with ril := ril } :=
      serves_of_pending hfd (hfresh ▸ hfresh') fun q hq hq' => hnodes q (hpending q hq hq')
    cases m with
    | none => exact hserves
    | some data =>
      have hlive : connections.live s r.addr :=
        .inl ⟨r, hr, rfl, hawaited (by simp)⟩
      exact serves_respond hserves rfl hlive data faults

theorem performNow_serves {faults : WriteFaults} {r : RequestInfo} {s s' : IsolationState}
    {effect : DispatchEffect} (h : performNow env faults r s effect = some s') : Serves s s' := by
  cases effect with
  | onRequestComplete e response => exact completeNow_serves _ _ h
  | setRadioIsOn isOn =>
    obtain rfl := Option.some.inj h
    exact serves_of_pending rfl (Nat.le_refl _) fun r hr _ => hr
  | setVoiceRadioTech tech =>
    obtain rfl := Option.some.inj h
    exact serves_of_pending rfl (Nat.le_refl _) fun r hr _ => hr
  | setCdmaSubscriptionSource source =>
    obtain rfl := Option.some.inj h
    exact serves_of_pending rfl (Nat.le_refl _) fun r hr _ => hr
  | onRequest data datalen =>
    obtain rfl := Option.some.inj h
    exact serves_of_pending rfl (Nat.le_refl _) fun r hr _ => hr

/-- Settled states stay settled within a session. -/
def Kept (s t : IsolationState) : Prop := Settled s → Settled t ∧ connections.Quiet s t

theorem Serves.kept {s t : IsolationState} (h : Serves s t) : Kept s t :=
  fun hs => ⟨h.settled hs, h.quiet⟩

theorem Kept.trans {s t u : IsolationState} (h₁ : Kept s t) (h₂ : Kept t u) : Kept s u := by
  intro hs
  obtain ⟨ht, hst⟩ := h₁ hs
  obtain ⟨hu, htu⟩ := h₂ ht
  exact ⟨hu, hst.trans htu⟩

/-- A new request belongs to the current connection. -/
theorem pushRequest_kept {s : IsolationState} (hfd : 0 ≤ s.ril.fdCommand) (token : Int)
    (request : RequestCode) : Kept s (pushRequest token request s) := by
  intro hs
  have hlive : ∀ a, connections.live (pushRequest token request s) a →
      connections.live s a ∨ a = s.ril.pending.fresh := by
    rintro a (⟨r, hr, ha, hawaited⟩ | hrest)
    · rcases List.mem_cons.mp hr with rfl | hr
      · exact .inr ha.symm
      · exact .inl (.inl ⟨r, hr, ha, hawaited⟩)
    · exact .inl (.inr hrest)
  refine ⟨⟨?_, ?_⟩, ⟨rfl, ?_, fun m hm => .inl hm⟩⟩
  · rintro ⟨hneg, -⟩
    have hneg' : s.ril.fdCommand < 0 := hneg
    omega
  · intro a ha
    show a < s.ril.pending.fresh + 1
    rcases hlive a ha with hold | rfl
    · exact Nat.lt_succ_of_lt (hs.addr a hold)
    · exact Nat.lt_succ_self _
  · intro a ha
    rcases hlive a ha with hold | rfl
    · refine .inl ⟨hold, ?_⟩
      exact Function.update_of_ne (Nat.ne_of_lt (hs.addr a hold)) _ _
    · exact .inr (Function.update_self _ _ _)

/-- **A record** is served within its session. -/
theorem receive_kept {faults : WriteFaults} {s s' : IsolationState} {buffer : List UInt8}
    (hfd : 0 ≤ s.ril.fdCommand) (h : receive env faults s buffer = some s') : Kept s s' := by
  have hfold : ∀ (r : RequestInfo) (effects : List DispatchEffect) (s s' : IsolationState),
      effects.foldlM (performNow env faults r) s = some s' → Kept s s' := by
    intro r effects
    induction effects with
    | nil =>
      intro s s' hs
      obtain rfl := Option.some.inj hs
      exact fun hset => ⟨hset, View.Quiet.refl _ _⟩
    | cons effect effects ih =>
      intro s s' hs
      rw [List.foldlM_cons] at hs
      obtain ⟨t, ht, hrest⟩ := Option.bind_eq_some_iff.mp hs
      exact (performNow_serves env ht).kept.trans (ih t s' hrest)
  unfold receive at h
  rcases hrec : readRecord buffer with _ | token | ⟨token, request, p⟩
  · rw [hrec] at h
    obtain rfl := Option.some.inj h
    exact fun hset => ⟨hset, View.Quiet.refl _ _⟩
  · rw [hrec] at h
    obtain rfl := Option.some.inj h
    intro hs
    refine ⟨⟨hs.listening, hs.addr⟩, rfl, fun a ha => .inl ⟨ha, rfl⟩, ?_⟩
    -- the code is refused on the connection it came from
    intro m hm
    have hmem : m ∈ (if (sendResponseRaw s.ril.fdCommand
        ((messageHead token).writeInt32 rilEGenericFailure).data faults).2 = [] then s.sent
      else s.sent ++ [(s.connection, s.connection)]) := hm
    split at hmem
    · exact .inl hmem
    · rcases List.mem_append.mp hmem with hold | hnew
      · exact .inl hold
      · exact .inr (.inr (List.mem_singleton.mp hnew))
  · rw [hrec] at h
    exact (pushRequest_kept hfd token request).trans (hfold _ _ _ _ h)

/-- `onCommandsSocketClosed` leaves no request on the list awaited. -/
theorem onCommandsSocketClosed_serves (s : IsolationState) :
    Serves s (onCommandsSocketClosed s) := by
  have hnone : ∀ r ∈ (onCommandsSocketClosed s).ril.pending.nodes, ¬ Awaited r := by
    intro r hr hawaited
    obtain ⟨q, -, rfl⟩ := List.mem_map.mp hr
    exact absurd (show true = false from hawaited.2) (by decide)
  refine ⟨rfl, rfl, fun _ => .inr hnone, Nat.le_refl _, fun r hr h => absurd h (hnone r hr), ?_,
    .inl rfl⟩
  rintro a (⟨r, hr, -, hawaited⟩ | hrest)
  · exact absurd hawaited (hnone r hr)
  · exact .inr hrest

/-- The dequeue hands an awaited request from the list to the completion. -/
theorem dequeue_serves {s : IsolationState} {t : ℕ} {r : RequestInfo} {pending : PendingRequests}
    (h : checkAndDequeueRequestInfo s.ril.pending t = some (r, pending)) (e : Int)
    (response : Option ResponseMemory) (responselen : ℕ) :
    Serves s { s with
      ril := { s.ril with pending := pending }
      dequeued := s.dequeued ++ [⟨r, e, response, responselen⟩] } := by
  obtain ⟨hr, hfresh, hnodes⟩ := checkAndDequeueRequestInfo_some h
  refine ⟨rfl, rfl, .inl, Nat.le_of_eq hfresh.symm, fun q hq _ => hnodes q hq, ?_, .inl rfl⟩
  rintro a (⟨q, hq, ha, hawaited⟩ | ⟨c, hc, ha, hawaited⟩ | hencoded)
  · exact .inl ⟨q, hnodes q hq, ha, hawaited⟩
  · rcases List.mem_append.mp hc with hc | hc
    · exact .inr (.inl ⟨c, hc, ha, hawaited⟩)
    · obtain rfl := List.mem_singleton.mp hc
      exact .inl ⟨r, hr, ha, hawaited⟩
  · exact .inr (.inr hencoded)

/-- The test hands an awaited request on to the sending. -/
theorem testCancelled_serves {s : IsolationState} {i : ℕ} {c : Completion}
    {x : RilState × Option (List UInt8)} (hc : s.dequeued[i]? = some c)
    (hx : completionMessage P version s.ril c = some x) :
    Serves s { s with
      ril := x.1
      dequeued := s.dequeued.eraseIdx i
      encoded := s.encoded ++ x.2.toList.map fun data => (c.request.addr, data) } := by
  obtain ⟨hfd, hfresh, hpending, hsend⟩ := completionMessage_pending P version hx
  refine ⟨rfl, rfl, ?_, hfresh, hpending, ?_, .inl rfl⟩
  · rintro ⟨hneg, hclosing⟩
    exact .inl ⟨hfd ▸ hneg, hclosing⟩
  rintro a (⟨q, hq, ha, hawaited⟩ | ⟨d, hd, ha, hawaited⟩ | ⟨data, hdata⟩)
  · exact .inl ⟨q, hpending q hq hawaited, ha, hawaited⟩
  · exact .inr (.inl ⟨d, List.mem_of_mem_eraseIdx hd, ha, hawaited⟩)
  · rcases List.mem_append.mp hdata with hold | hnew
    · exact .inr (.inr ⟨data, hold⟩)
    · obtain ⟨d, hd, hda⟩ := List.mem_map.mp hnew
      obtain ⟨rfl, -⟩ := Prod.mk.inj hda
      have hne : x.2 ≠ none := by
        intro hnone
        rw [hnone] at hd
        exact absurd hd List.not_mem_nil
      exact .inr (.inl ⟨c, List.mem_of_getElem? hc, rfl, hsend hne⟩)

/-- The sending answers its request. -/
theorem sendResponse_serves {s : IsolationState} {i : ℕ} {m : ℕ × List UInt8}
    (hm : s.encoded[i]? = some m) (faults : WriteFaults) :
    Serves s (respond (s.owner m.1) m.2 faults
      { s with encoded := s.encoded.eraseIdx i }) := by
  have hdrop : Serves s { s with encoded := s.encoded.eraseIdx i } := by
    refine ⟨rfl, rfl, .inl, Nat.le_refl _, fun r hr _ => hr, ?_, .inl rfl⟩
    rintro a (hpending | hdequeued | ⟨data, hdata⟩)
    · exact .inl hpending
    · exact .inr (.inl hdequeued)
    · exact .inr (.inr ⟨data, List.mem_of_mem_eraseIdx hdata⟩)
  have hlive : connections.live s m.1 := .inr (.inr ⟨m.2, List.mem_of_getElem? hm⟩)
  exact serves_respond hdrop rfl hlive m.2 faults

/-- **Every step** stays within the session, or accepts the next connection when nothing is
awaited. -/
theorem isolationStep_session {s s' : IsolationState} {a : IsolationAction} (hs : Settled s)
    (hok : CompletionsDone s a) (h : isolationStep P version s a = some s') :
    Settled s' ∧ (connections.Quiet s s' ∨ connections.Turn s s') := by
  have hkept : Kept s s' → Settled s' ∧ (connections.Quiet s s' ∨ connections.Turn s s') :=
    fun hk => ⟨(hk hs).1, .inl (hk hs).2⟩
  cases isolationStepTo_of_step P version h with
  | accept fdCommand hlisten =>
    obtain ⟨hdequeued, hencoded⟩ := hok
    have hnone : ∀ a, ¬ connections.live s a := by
      rintro a (⟨r, hr, -, hawaited⟩ | ⟨c, hc, -, hawaited⟩ | ⟨data, hdata⟩)
      · exact hs.listening hlisten r hr hawaited
      · exact hdequeued c hc hawaited
      · rw [hencoded] at hdata
        exact absurd hdata List.not_mem_nil
    refine ⟨⟨?_, fun a ha => absurd ha (hnone a)⟩, .inr ⟨hnone, hnone, rfl⟩⟩
    rintro ⟨hneg, -⟩
    exact absurd (show (fdCommand : Int) < 0 from hneg) (by omega)
  | rejectPeer | socketClosed => exact hkept (onCommandsSocketClosed_serves s).kept
  | record _ _ _ _ _ hfd hreceive => exact hkept (receive_kept _ hfd hreceive)
  | closeCommands =>
    refine hkept (Serves.kept ⟨rfl, rfl, ?_, Nat.le_refl _, fun r hr _ => hr, fun _ ha => ha,
      .inl rfl⟩)
    rintro ⟨-, hclosing⟩
    exact absurd (show true = false from hclosing) (by decide)
  | dequeueNone => exact ⟨hs, .inl (View.Quiet.refl _ _)⟩
  | dequeue _ e response responselen hdeq =>
    exact hkept (dequeue_serves hdeq e response responselen).kept
  | testCancelled _ hc hx => exact hkept (testCancelled_serves P version hc hx).kept
  | sendResponse _ faults hm => exact hkept (sendResponse_serves hm faults).kept

/-- **Response isolation.**  In every run in which no connection is accepted while a completion
of an awaited request is under way, every response goes to the connection of its request. -/
theorem responses_isolated {s : IsolationState}
    (h : Runs.Reaches (isolationSystem P version) CompletionsDone s) :
    ∀ m ∈ s.sent, m.1 = m.2 := by
  have hnone : ∀ a, ¬ connections.live isolationInit a := by
    rintro a (⟨r, hr, -⟩ | ⟨c, hc, -⟩ | ⟨data, hdata⟩)
    · exact absurd hr List.not_mem_nil
    · exact absurd hc List.not_mem_nil
    · exact absurd hdata List.not_mem_nil
  exact (connections.isolated Settled hnone rfl
    ⟨fun _ r hr => absurd hr List.not_mem_nil, fun a ha => absurd ha (hnone a)⟩
    (isolationStep_session P version) h).log

/-! ### Two runs -/

instance (s : IsolationState) : DecidablePred (CompletionsDone s) := fun a =>
  match a with
  | .accept _ =>
      inferInstanceAs (Decidable ((∀ c ∈ s.dequeued, ¬ Awaited c.request) ∧ s.encoded = []))
  | .rejectPeer | .record .. | .closeCommands | .socketClosed | .dequeue .. | .testCancelled _
  | .sendResponse .. => .isTrue trivial

/-- A connection sends `RIL_REQUEST_SIGNAL_STRENGTH` with token `7`, and the vendor's thread
dequeues it. -/
def signalStrengthDequeued : List IsolationAction :=
  [.accept 5, .record .on 0 0 noFaults [19, 0, 0, 0, 7, 0, 0, 0], .dequeue 1 0 none 0]

/-- Two connections one after the other, and the request of each is completed before it ends. -/
def signalStrengthTwice : List IsolationAction :=
  signalStrengthDequeued ++ [.testCancelled 0, .sendResponse 0 noFaults, .closeCommands,
    .socketClosed, .accept 5, .record .on 0 0 noFaults [19, 0, 0, 0, 8, 0, 0, 0],
    .dequeue 2 0 none 0, .testCancelled 0, .sendResponse 0 noFaults]

/-- Each is answered on its own connection. -/
theorem signalStrength_isolated :
    ∃ s : IsolationState, s.sent = [(1, 1), (2, 2)] ∧ ∀ m ∈ s.sent, m.1 = m.2 := by
  have hrun : (Runs.exec (isolationSystem x86 11) CompletionsDone isolationInit
      signalStrengthTwice).map IsolationState.sent = some [(1, 1), (2, 2)] := by decide +kernel
  obtain ⟨s, hs, hsent⟩ := Option.map_eq_some_iff.mp hrun
  exact ⟨s, hsent, responses_isolated x86 11 (Runs.reaches_of_exec hs)⟩

/-- The connection ends after the dequeue, which the mark then misses; the next one is accepted,
and receives the response. -/
theorem response_crosses : ∃ s, Runs.Reachable (isolationSystem x86 11) s ∧
    s.sent = [(1, 2)] ∧ ¬ ∀ m ∈ s.sent, m.1 = m.2 := by
  have hrun : (Runs.exec (isolationSystem x86 11) (fun _ _ => True) isolationInit
      (signalStrengthDequeued ++ [.closeCommands, .socketClosed, .accept 5, .testCancelled 0,
        .sendResponse 0 noFaults])).map IsolationState.sent = some [(1, 2)] := by decide +kernel
  obtain ⟨s, hs, hsent⟩ := Option.map_eq_some_iff.mp hrun
  refine ⟨s, Runs.reaches_of_exec hs, hsent, fun hall => ?_⟩
  rw [hsent] at hall
  exact absurd (hall (1, 2) (List.mem_singleton.mpr rfl)) (by decide)

end CtpCommon.Ril
