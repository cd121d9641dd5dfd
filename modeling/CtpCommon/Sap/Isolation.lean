import CtpCommon.Lib.Sessions
import CtpCommon.Sap.Order

/-!
# SAP responses and connections

When a connection ends, `onCommandsSocketClosed` sends a disconnect to the UIM, and leaves
`dispatchQueue`, `pendingResponseQueue` and the requests of the threads and of the UIM as they
are.  `sendResponse` writes to whatever `commandFd` is.

* `sapConnections` — the connections as sessions, with the requests that are queued, held or
  outstanding as the items that live;
* `sapStep_session` — **PROVED**: every step stays in the session, or begins the next one with
  nothing left over;
* `sap_responses_isolated` — **PROVED**: a response goes to the connection of its request in every
  run in which a connection is accepted only when no request is left over;
* `sap_response_crosses` — a queued, and an outstanding request answered on the next connection.
-/

namespace CtpCommon.Sap

open Sessions

variable (E : SapEnv)

/-- The connections as sessions: a request lives while it is queued, held or outstanding; the
socket's own disconnect requests do not. -/
def sapConnections : View SapState SapSocketRequest where
  session := SapState.connection
  live s r := r ∈ s.dispatchQueue.elems ∨ r ∈ s.held ∨
    (r ∈ s.outstanding ∧ r.socketId = rilSocket1)
  owner _ r := r.connection
  log := SapState.sent

/-- A connection is accepted only when no request of an earlier one is queued, held by a thread or
outstanding. -/
def NothingLeftOver (s : SapState) : SapAction → Prop
  | .connect _ => s.dispatchQueue.elems = [] ∧ s.held = [] ∧
      ∀ r ∈ s.outstanding, r.socketId ≠ rilSocket1
  | _ => True

/-- Steps that keep the connection and answer at most a request that lived. -/
theorem quiet_of_live {s t : SapState} (hconnection : t.connection = s.connection)
    (hlive : ∀ r, sapConnections.live t r → sapConnections.live s r ∨ r.connection = s.connection)
    (hsent : t.sent = s.sent ∨
      ∃ r, sapConnections.live s r ∧ t.sent = s.sent ++ [(r.connection, s.connection)]) :
    sapConnections.Quiet s t := by
  refine ⟨hconnection, ?_, ?_⟩
  · intro r hr
    rcases hlive r hr with hold | hnew
    · exact .inl ⟨hold, rfl⟩
    · exact .inr hnew
  · intro m hm
    have hmem : m ∈ t.sent := hm
    rcases hsent with hsame | ⟨r, hr, hnew⟩
    · rw [hsame] at hmem
      exact .inl hmem
    · rw [hnew] at hmem
      rcases List.mem_append.mp hmem with hold | hlast
      · exact .inl hold
      · exact .inr (.inl ⟨r, hr, List.mem_singleton.mp hlast⟩)

/-- The disconnect request belongs to no socket. -/
theorem onCommandsSocketClosed_live {s : SapState} {r : SapSocketRequest}
    (h : sapConnections.live (onCommandsSocketClosed s) r) : sapConnections.live s r := by
  rcases h with hqueue | hheld | ⟨hout, hid⟩
  · exact .inl hqueue
  · exact .inr (.inl hheld)
  · rcases List.mem_append.mp hout with hold | hnew
    · exact .inr (.inr ⟨hold, hid⟩)
    · obtain rfl := List.mem_singleton.mp hnew
      exact absurd (show disconnectSocketId = rilSocket1 from hid) (by decide)

/-- **Every step** stays within the session, or accepts the next connection when nothing is left
over. -/
theorem sapStep_session {s s' : SapState} {a : SapAction} (hok : NothingLeftOver s a)
    (h : sapStep E s a = some s') : sapConnections.Quiet s s' ∨ sapConnections.Turn s s' := by
  cases sapStepTo_of_step E h with
  | connect fd hfd =>
    obtain ⟨hqueue, hheld, hout⟩ := hok
    have hnone : ∀ r, ¬ sapConnections.live s r := by
      rintro r (hmem | hmem | ⟨hmem, hid⟩)
      · rw [hqueue] at hmem
        exact absurd hmem List.not_mem_nil
      · rw [hheld] at hmem
        exact absurd hmem List.not_mem_nil
      · exact hout r hmem hid
    exact .inr ⟨hnone, hnone, rfl⟩
  | rejectPeer hfd =>
    exact .inl (quiet_of_live rfl (fun r hr => .inl (onCommandsSocketClosed_live hr)) (.inl rfl))
  | pushRecord record hfd =>
    unfold pushRecord
    split
    · exact .inl (View.Quiet.refl _ _)
    · refine .inl (quiet_of_live rfl ?_ (.inl rfl))
      rintro r (hmem | hrest)
      · rcases List.mem_cons.mp hmem with rfl | hmem
        · exact .inr rfl
        · exact .inl (.inl hmem)
      · exact .inl (.inr hrest)
  | closeCommands hfd =>
    exact .inl (quiet_of_live rfl
      (fun r hr => .inl (onCommandsSocketClosed_live (s := { s with commandFd := -1 }) hr))
      (.inl rfl))
  | dequeue q rest hidle helems =>
    refine .inl (quiet_of_live rfl ?_ (.inl rfl))
    rintro r (hmem | hmem | hout)
    · exact .inl (.inl (helems ▸ List.mem_cons_of_mem _ hmem))
    · rcases List.mem_append.mp hmem with hold | hnew
      · exact .inl (.inr (.inl hold))
      · obtain rfl := List.mem_singleton.mp hnew
        exact .inl (.inl (helems ▸ List.mem_cons_self ..))
    · exact .inl (.inr (.inr hout))
  | dispatch => exact .inl (quiet_of_live rfl (fun _ hr => .inl hr) (.inl rfl))
  | onRequest i q hq hqueued =>
    refine .inl (quiet_of_live rfl ?_ (.inl rfl))
    rintro r (hmem | hmem | ⟨hmem, hid⟩)
    · exact .inl (.inl hmem)
    · exact .inl (.inr (.inl (List.mem_of_mem_eraseIdx hmem)))
    · rcases List.mem_append.mp hmem with hold | hnew
      · exact .inl (.inr (.inr ⟨hold, hid⟩))
      · obtain rfl := List.mem_singleton.mp hnew
        exact .inl (.inr (.inl (List.mem_of_getElem? hq)))
  | complete i e response fault q hq =>
    obtain ⟨channel, sent, heq, hsent⟩ := sOnRequestComplete_spec E q e response fault
      { s with outstanding := s.outstanding.eraseIdx i }
    rw [heq]
    refine .inl (quiet_of_live rfl ?_ ?_)
    · rintro r (hmem | hmem | ⟨hmem, hid⟩)
      · exact .inl (.inl hmem)
      · exact .inl (.inr (.inl hmem))
      · exact .inl (.inr (.inr ⟨List.mem_of_mem_eraseIdx hmem, hid⟩))
    · rcases hsent with hsame | ⟨hid, hnew⟩
      · exact .inl hsame
      · exact .inr ⟨q, .inr (.inr ⟨List.mem_of_getElem? hq, hid⟩), hnew⟩
  | dequeueCompleted => exact .inl (quiet_of_live rfl (fun _ hr => .inl hr) (.inl rfl))

/-- **SAP response isolation.**  In every run in which a connection is accepted only when no
request is queued, held or outstanding, every response goes to the connection of its request. -/
theorem sap_responses_isolated {s : SapState}
    (h : Runs.Reaches (sapSystem E) NothingLeftOver s) : ∀ m ∈ s.sent, m.1 = m.2 := by
  have hnone : ∀ r, ¬ sapConnections.live sapInit r := by
    rintro r (hmem | hmem | ⟨hmem, -⟩) <;> exact absurd hmem List.not_mem_nil
  exact (sapConnections.isolated (fun _ => True) hnone rfl trivial
    (fun _ hok hstep => ⟨trivial, sapStep_session E hok hstep⟩) h).log

/-! ### Three runs -/

instance (s : SapState) : DecidablePred (NothingLeftOver s) := fun a =>
  match a with
  | .connect _ => inferInstanceAs (Decidable (s.dispatchQueue.elems = [] ∧ s.held = [] ∧
      ∀ r ∈ s.outstanding, r.socketId ≠ rilSocket1))
  | .rejectPeer | .pushRecord _ | .closeCommands | .dequeue | .dispatch _ | .onRequest _
  | .complete .. | .dequeueCompleted _ => .isTrue trivial

/-- A request answered before its connection ends, and the next connection. -/
theorem answered_before_close : ∃ s : SapState, s.connection = 2 ∧ s.sent = [(1, 1)] ∧
    ∀ m ∈ s.sent, m.1 = m.2 := by
  have hrun : (Runs.exec (sapSystem shortHeaders) NothingLeftOver sapInit
      [.connect 7, connectRecord 1, .dequeue, .dispatch 0, .onRequest 0, .complete 0 0 [1] none,
        .dequeueCompleted 0, .closeCommands, .connect 7]).map (fun s => (s.connection, s.sent)) =
      some (2, [(1, 1)]) := by
    decide +kernel
  obtain ⟨s, hs, hval⟩ := Option.map_eq_some_iff.mp hrun
  obtain ⟨hconnection, hsent⟩ := Prod.mk.inj hval
  exact ⟨s, hconnection, hsent, sap_responses_isolated shortHeaders (Runs.reaches_of_exec hs)⟩

/-- **Requests outlive their connection**: one that was outstanding at the close, and one that was
still queued, are answered on the next connection. -/
theorem sap_response_crosses :
    (∃ s, Runs.Reachable (sapSystem shortHeaders) s ∧ ¬ ∀ m ∈ s.sent, m.1 = m.2) ∧
      ∃ s t, Runs.Reachable (sapSystem shortHeaders) s ∧ s.dispatchQueue.elems.length = 1 ∧
        s.outstanding.length = 1 ∧ s.commandFd = -1 ∧
        Runs.exec (sapSystem shortHeaders) (fun _ _ => True) s
          [.connect 7, .dequeue, .dispatch 0, .onRequest 0, .complete 1 0 [1] none] = some t ∧
        ¬ ∀ m ∈ t.sent, m.1 = m.2 := by
  have hcross : ¬ ∀ m ∈ [((1 : ℕ), (2 : ℕ))], m.1 = m.2 := by decide
  refine ⟨?_, ?_⟩
  · have hrun : (Runs.exec (sapSystem shortHeaders) (fun _ _ => True) sapInit
        [.connect 7, connectRecord 1, .dequeue, .dispatch 0, .onRequest 0, .closeCommands,
          .connect 7, .complete 0 0 [1] none]).map SapState.sent = some [(1, 2)] := by decide +kernel
    obtain ⟨s, hs, hsent⟩ := Option.map_eq_some_iff.mp hrun
    exact ⟨s, Runs.reaches_of_exec hs, hsent ▸ hcross⟩
  · have hrun : ((Runs.exec (sapSystem shortHeaders) (fun _ _ => True) sapInit
        [.connect 7, connectRecord 1, .closeCommands]).bind fun s =>
          (Runs.exec (sapSystem shortHeaders) (fun _ _ => True) s
            [.connect 7, .dequeue, .dispatch 0, .onRequest 0, .complete 1 0 [1] none]).map fun t =>
              (s.dispatchQueue.elems.length, s.outstanding.length, s.commandFd, t.sent))
        = some (1, 1, -1, [(1, 2)]) := by decide +kernel
    obtain ⟨s, hs, hrest⟩ := Option.bind_eq_some_iff.mp hrun
    obtain ⟨t, ht, hval⟩ := Option.map_eq_some_iff.mp hrest
    obtain ⟨hqueue, hval⟩ := Prod.mk.inj hval
    obtain ⟨hout, hval⟩ := Prod.mk.inj hval
    obtain ⟨hfd, hsent⟩ := Prod.mk.inj hval
    exact ⟨s, t, Runs.reaches_of_exec hs, hqueue, hout, hfd, ht, hsent ▸ hcross⟩

end CtpCommon.Sap
