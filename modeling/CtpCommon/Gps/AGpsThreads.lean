import CtpCommon.Gps.Provider
import CtpCommon.Lib.Threads

/-!
# The GPS provider: the data connection and its threads

The engine asks for a connection on threads of its own, the network comes and goes on the handler's
thread, and both read and write the fields of the connection without a lock.

* `requestConn`, `releaseConn`, `reportAGpsStatus`, `updateNetwork` — the methods of `AGps`, field
  by field;
* `run_reportAGpsStatus`, `run_updateNetwork` — **PROVED**: a method that runs alone does what the
  method of `AGps` does in one step;
* `agpsThreads` — the threads, step by step;
* `Provider.provider_agps` — **PROVED**: the provider's runs are those whose methods do not overlap;
* `agps_follows` — **PROVED** of every run whose methods do not overlap: the engine's requests for a
  data connection are answered in turn;
* `agps_overlapped` — **PROVED**: a network that comes while a request is made answers it too.
-/

namespace CtpCommon.Gps

open Threads

namespace AGps.Stepwise

open Method

def call (c : AGpsCall) : Method AGps Unit := write fun g => g.call c

/-- `next` is what follows; it is not reached if the address is gone when it is read again, as
`requestRouteToHostAddress` throws. -/
def setRouting (next : Method AGps Unit) : Method AGps Unit := do
  if (← read (·.ipAddr)).isSome then
    match ← read (·.ipAddr) with
    | none => pure ()
    | some addr =>
        call (.requestRouteToHostAddress addr)
        next
  else next

/-- The connection is opened with the APN that is stored; without one the call throws. -/
def dataConnOpen : Method AGps Unit :=
  setRouting do
    match ← read (·.apn) with
    | none => pure ()
    | some apn =>
        let apnIpType ← read (·.apnIpType)
        call (.nativeAgpsDataConnOpen apn apnIpType)
        write fun g => { g with state := .open }

def dataConnFailed : Method AGps Unit := do
  write fun g => { g with state := .closed }
  call .nativeAgpsDataConnFailed

def noteAddress : Option (List UInt8) → Method AGps Unit
  | none => pure ()
  | some addr => write fun g => { g with ipAddr := getByAddress addr }

def requestConn (ipaddr : Option (List UInt8)) (result : Int32) : Method AGps Unit := do
  write fun g => { g.call .requested with state := .opening }
  call .startUsingNetworkFeature
  noteAddress ipaddr
  if result = 0 then
    if (← read (·.apn)).isSome then dataConnOpen else dataConnFailed
  else if result ≠ 1 then dataConnFailed

def releaseConn : Method AGps Unit := do
  if (← read (·.state)) ≠ .closed then
    call .stopUsingNetworkFeature
    call .nativeAgpsDataConnClosed
    write fun g => { g with state := .closed }
    write fun g => { g with ipAddr := none }

def reportAGpsStatus (status : Int32) (ipaddr : Option (List UInt8)) (result : Int32) :
    Method AGps Unit :=
  if status = 1 then requestConn ipaddr result
  else if status = 2 then releaseConn
  else pure ()

/-- Only the handler's thread writes `mAGpsApn` and `mApnIpType`. -/
def storeApn (ans : NetworkAnswers) (extraInfo : Option String) : Method AGps Unit := do
  let apn := extraInfo.getD "dummy-apn"
  write fun g => { g with apn := some apn }
  let apnIpType ← read fun g => g.getApnIpType ans.carrierIpType apn
  write fun g => { g with apnIpType := apnIpType }

def updateNetwork (networkAvailable : Bool) (ans : NetworkAnswers) :
    Option NetworkInfo → Method AGps Unit
  | none => pure ()
  | some info => do
      write fun g => g.noticeNetwork ans info
      if info.type = typeMobileSupl ∧ (← read (·.state)) = .opening then
        if networkAvailable then
          storeApn ans info.extraInfo
          dataConnOpen
        else
          write fun g => { g with apn := none }
          write fun g => { g with apnIpType := 0 }
          dataConnFailed

/-! ### Alone -/

variable (g : AGps)

theorem run_setRouting (next : Method AGps Unit) :
    (setRouting next).run g = next.run g.setRouting := by
  unfold setRouting AGps.setRouting
  rw [run_read_bind]
  cases haddr : g.ipAddr with
  | none => rfl
  | some addr =>
    show (match g.ipAddr with
      | none => pure ()
      | some addr => _ : Method AGps Unit).run g = _
    rw [haddr]
    rfl

theorem setRouting_apn : g.setRouting.apn = g.apn ∧ g.setRouting.apnIpType = g.apnIpType := by
  unfold AGps.setRouting
  split <;> exact ⟨rfl, rfl⟩

theorem run_dataConnOpen {apn : String} (h : g.apn = some apn) :
    dataConnOpen.run g = ((), g.dataConnOpen apn) := by
  obtain ⟨hapn, htype⟩ := setRouting_apn g
  unfold dataConnOpen AGps.dataConnOpen
  rw [run_setRouting, run_read_bind, hapn, h, ← htype]
  rfl

theorem run_requestConn (ipaddr : Option (List UInt8)) (result : Int32) :
    (requestConn ipaddr result).run g = ((), g.requestConn ipaddr result) := by
  unfold requestConn AGps.requestConn
  extract_lets k
  have hbegin : (noteAddress ipaddr).run
      (AGps.call { g.call .requested with state := .opening } .startUsingNetworkFeature)
        = ((), k) := by
    have hcalls : g.calls ++ [AGpsCall.requested] ++ [.startUsingNetworkFeature]
        = g.calls ++ [.requested, .startUsingNetworkFeature] := List.append_assoc _ _ _
    cases ipaddr with
    | none =>
      exact congrArg (fun cs => ((), ({ g with state := .opening, calls := cs } : AGps))) hcalls
    | some addr =>
      exact congrArg (fun cs => ((), ({ g with
        state := .opening, calls := cs, ipAddr := getByAddress addr } : AGps))) hcalls
  unfold call
  rw [run_write_bind, run_write_bind, run_bind, hbegin, run_ite]
  split
  · rw [run_read_bind]
    cases hapn : k.apn with
    | none => rfl
    | some apn => exact run_dataConnOpen k hapn
  rw [run_ite]
  split <;> rfl

/-- **What the engine reports**, alone. -/
theorem run_reportAGpsStatus (status : Int32) (ipaddr : Option (List UInt8)) (result : Int32) :
    (reportAGpsStatus status ipaddr result).run g
      = ((), g.reportAGpsStatus status ipaddr result) := by
  unfold reportAGpsStatus AGps.reportAGpsStatus
  rw [run_ite]
  split
  · exact run_requestConn g ipaddr result
  rw [run_ite]
  split
  · unfold releaseConn AGps.releaseConn
    rw [run_read_bind, run_ite]
    split
    · have hcalls : g.calls ++ [AGpsCall.stopUsingNetworkFeature] ++ [.nativeAgpsDataConnClosed]
          = g.calls ++ [.stopUsingNetworkFeature, .nativeAgpsDataConnClosed] :=
        List.append_assoc _ _ _
      exact congrArg (fun cs => ((), ({ g with
        calls := cs, state := .closed, ipAddr := none } : AGps))) hcalls
    · rfl
  · rfl

/-- **What the network does**, alone. -/
theorem run_updateNetwork (networkAvailable : Bool) (ans : NetworkAnswers)
    (info : Option NetworkInfo) : (updateNetwork networkAvailable ans info).run g
      = ((), g.updateNetwork networkAvailable ans info) := by
  cases info with
  | none => rfl
  | some info =>
    simp only [updateNetwork, AGps.updateNetwork]
    rw [run_write_bind, run_read_bind, run_ite]
    generalize g.noticeNetwork ans info = k
    split
    · rw [run_ite]
      split
      · exact run_dataConnOpen (k.storeApn ans info.extraInfo) rfl
      · rfl
    · rfl

end AGps.Stepwise

/-! ### The threads -/

/-- What the handler's thread handles. -/
structure NetworkUpdate where
  networkAvailable : Bool
  ans : NetworkAnswers
  info : Option NetworkInfo

/-- What the engine's threads report. -/
structure AGpsReport where
  status : Int32
  ipaddr : Option (List UInt8)
  result : Int32

/-- The handler's thread and the engine's. -/
def agpsThreads : Threads AGps NetworkUpdate AGpsReport Empty where
  init := .init
  take _ g := some g
  handler u := AGps.Stepwise.updateNetwork u.networkAvailable u.ans u.info
  other r := AGps.Stepwise.reportAGpsStatus r.status r.ipaddr r.result
  outside o _ := o.elim

/-! ### The provider's runs -/

namespace Provider

variable {verbose : Bool} {diffs : ReturningDiffs} {σ τ : Provider}

/-- What a step may do to the data connection. -/
inductive AGpsStep : AGps → AGps → Prop
  | same (g) : AGpsStep g g
  | updateNetwork (g b ans info) : AGpsStep g (g.updateNetwork b ans info)
  | reportAGpsStatus (g status ipaddr result) :
      AGpsStep g (g.reportAGpsStatus status ipaddr result)

theorem handleMessage_agps (verbose : Bool) (diffs : ReturningDiffs) (ans : Answers) (m : Message) :
    AGpsStep σ.agps (σ.handleMessage verbose diffs ans m).agps := by
  have hjob : ∀ job, AGpsStep σ.agps (σ.handleJob job).agps := by
    intro job
    unfold handleJob
    split
    · exact .same _
    split <;> cases job <;> exact .same _
  cases m with
  | enable on =>
    cases on with
    | true =>
      show AGpsStep _ (σ.handleEnable verbose ans).agps
      unfold handleEnable
      split <;> exact .same _
    | false => exact .same _
  | updateNetworkState state info =>
    show AGpsStep _ (if _ then _ else _ : Provider).agps
    split
    · exact hjob _
    · unfold handleUpdateNetworkState
      extract_lets ν
      have hν : AGpsStep σ.agps ν.agps := .updateNetwork _ _ _ _
      split
      · unfold askPending
        split <;> split <;> exact hν
      · exact hν
  | injectNtpTime => exact hjob _
  | downloadXtraData =>
    show AGpsStep _ (if _ then _ else _ : Provider).agps
    split
    · exact hjob _
    · exact .same _
  | setRequest | injectNtpTimeFinished | downloadXtraDataFinished | gpsServiceStart =>
    exact .same _

theorem release_agps : σ.release.agps = σ.agps := by
  unfold release
  split <;> rfl

theorem step_agps {a : Action} (hstep : σ.step verbose diffs a = some τ) :
    AGpsStep σ.agps τ.agps := by
  cases a with
  | reportAGpsStatus status ipaddr result =>
    obtain rfl := Option.some.inj hstep
    exact .reportAGpsStatus _ _ _ _
  | handle ans =>
    simp only [step, handle] at hstep
    split at hstep
    · exact absurd hstep (by simp)
    · rename_i message arg2 rest hqueue
      obtain rfl := Option.some.inj hstep
      have hmessage := handleMessage_agps (σ := { σ with queue := rest }) verbose diffs ans message
      split
      · rw [release_agps]
        exact hmessage
      · exact hmessage
    · rename_i b rest hqueue
      obtain rfl := Option.some.inj hstep
      cases b <;> exact .same _
  | task i ok =>
    simp only [step, taskStep] at hstep
    split at hstep
    · exact absurd hstep (by simp)
    all_goals
      obtain rfl := Option.some.inj hstep
    · exact .same _
    · exact .same _
    · exact .same _
    · rw [release_agps]
      exact .same _
  | due i =>
    obtain ⟨d, -, rfl⟩ := Option.map_eq_some_iff.mp hstep
    exact .same _
  | alarmWakeup | alarmTimeout =>
    simp only [step, Option.ite_none_right_eq_some] at hstep
    obtain ⟨-, hτ⟩ := hstep
    obtain rfl := Option.some.inj hτ
    exact .same _
  | enable | disable | forceXtraInjection | setEngineCapabilities =>
    obtain rfl := Option.some.inj hstep
    simp only [enable, disable, forceXtraInjection, setEngineCapabilities]
    split <;> exact .same _
  | _ =>
    obtain rfl := Option.some.inj hstep
    exact .same _

/-- **The provider's connection is that of the threads**: every run of the provider is a run of the
threads whose methods do not overlap. -/
theorem provider_agps (h : Runs.Reachable (provider verbose diffs) σ) :
    ∃ τ, Runs.Reaches agpsThreads.system (fun σ a => σ.Alone a) τ ∧ τ.Stands σ.agps := by
  refine h.invariant (I := fun σ => ∃ τ, Runs.Reaches agpsThreads.system
    (fun σ a => σ.Alone a) τ ∧ τ.Stands σ.agps) ⟨_, .init, stands_init⟩ ?_
  rintro σ τ a ⟨π, hrun, hstands⟩ _ hstep
  have hagps := step_agps hstep
  generalize τ.agps = g at hagps ⊢
  cases hagps with
  | same => exact ⟨π, hrun, hstands⟩
  | updateNetwork b ans info =>
    exact hstands.handles hrun (c := ⟨b, ans, info⟩) rfl
      (congrArg Prod.snd (AGps.Stepwise.run_updateNetwork σ.agps b ans info))
  | reportAGpsStatus status ipaddr result =>
    exact hstands.reports hrun (e := ⟨status, ipaddr, result⟩)
      (congrArg Prod.snd (AGps.Stepwise.run_reportAGpsStatus σ.agps status ipaddr result))

end Provider

/-! ### The conversation -/

/-- **The data connection of assisted GPS.**  In every run of the handler's thread and the engine's
in which no method begins while another is under way, and once the method under way has run to its
end: the engine has been told of an open or a failed connection only in answer to a request it has
made and that was not answered, at most once, and of a closed one only if it had asked for it or had
it; and `mAGpsDataConnectionState` says where the conversation stands. -/
theorem agps_follows {σ : Pool AGps}
    (h : Runs.Reaches agpsThreads.system (fun σ a => σ.Alone a) σ) : σ.settled.Follows := by
  have hrun : Runs.Reaches agpsThreads.system
      (fun σ a => σ.Alone a ∧ σ.Admits (fun _ _ => True) a) σ := by
    refine h.mono fun σ a halone => ⟨halone, ?_⟩
    cases a <;> trivial
  refine settled_invariant (I := AGps.Follows) hrun AGps.follows_init ?_ ?_ ?_
  · intro u g g' hg _ htake
    obtain rfl := Option.some.inj htake
    show ((AGps.Stepwise.updateNetwork _ _ _).run _).2.Follows
    rw [AGps.Stepwise.run_updateNetwork]
    exact AGps.follows_network hg _ _ _
  · intro r g hg
    show ((AGps.Stepwise.reportAGpsStatus _ _ _).run _).2.Follows
    rw [AGps.Stepwise.run_reportAGpsStatus]
    exact AGps.follows_report hg _ _ _
  · intro o
    exact o.elim

/-- The engine asks for a connection, and gets none. -/
theorem agps_follows_failed : ∃ σ : Pool AGps, σ.settled.calls = [.requested,
    .startUsingNetworkFeature, .nativeAgpsDataConnFailed] ∧ σ.settled.Follows := by
  refine ⟨_, ?_, agps_follows (reported (M := agpsThreads) (e := ⟨1, none, 2⟩) .init
    (quiet_of_none _) fun _ _ => trivial)⟩
  rfl

/-- **Where methods overlap**: the engine asks for a connection that is active already, and the
handler opens it before the answer is read. -/
theorem agps_overlapped : ∃ σ : Pool AGps, Runs.Reachable agpsThreads.system σ ∧
    σ.state.calls = [.requested, .startUsingNetworkFeature,
      .nativeUpdateNetworkState true 3 false true none "dummy-apn",
      .nativeAgpsDataConnOpen "dummy-apn" 0, .nativeAgpsDataConnOpen "dummy-apn" 0] ∧
    Monitor.run Conn.step .none σ.state.calls = none := by
  have hasked : Runs.Reachable agpsThreads.system _ :=
    Runs.Reachable.next (a := .begin ⟨1, none, 0⟩) .init rfl
  have hopening := hasked.exec
    (show Runs.exec _ _ _ (List.replicate 2 (.other 0)) = some _ from rfl)
  have hopen := handled (h := ⟨true, ⟨true, none, fun _ => 0⟩, some ⟨3, true, true, false, none⟩⟩)
    hopening rfl trivial (fun _ => trivial) rfl
  have hagain := other_ends hopen (fun _ _ => trivial) (i := 0) rfl
  exact ⟨_, hagain, rfl, rfl⟩

end CtpCommon.Gps
