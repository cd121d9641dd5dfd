import CtpCommon.Gps.Types
import CtpCommon.Lib.Monitor

/-!
# The GPS provider: the data connection of assisted GPS

`GpsLocationProvider.java`: the engine asks for a connection for SUPL and gives it back
(`reportAGpsStatus`); the network comes and goes (`handleUpdateNetworkState`).

* `AGps` — the fields that are about the connection, and the log;
* `Conn`, `Conn.step` — the conversation as the engine is to see it: a request is answered once, by
  an open or a failed connection, and what was asked for or is open may be closed;
* `AGps.Follows` — the log is such a conversation, and the field agrees with where it stands;
* `AGps.follows_report`, `AGps.follows_network` — **PROVED**: both methods keep it so.
-/

namespace CtpCommon.Gps

/-- `AGPS_DATA_CONNECTION_CLOSED`, `AGPS_DATA_CONNECTION_OPENING`, `AGPS_DATA_CONNECTION_OPEN`. -/
inductive AGpsDataConnectionState where
  | closed
  | opening
  | open
  deriving DecidableEq, Repr

/-- What the engine reports, and what the provider calls. -/
inductive AGpsCall where
  | requested
  | startUsingNetworkFeature
  | stopUsingNetworkFeature
  | requestRouteToHostAddress (addr : List UInt8)
  | nativeUpdateNetworkState (connected : Bool) (type : Int32) (roaming available : Bool)
      (extraInfo : Option String) (defaultApn : String)
  | nativeAgpsDataConnOpen (apn : String) (apnIpType : ℕ)
  | nativeAgpsDataConnFailed
  | nativeAgpsDataConnClosed
  deriving DecidableEq, Repr

structure AGps where
  apn : Option String
  apnIpType : ℕ
  state : AGpsDataConnectionState
  ipAddr : Option (List UInt8)
  calls : List AGpsCall
  deriving DecidableEq, Repr

/-- The setting `mobile_data == 1`, the result of `getSelectedApn`, and the type `getApnIpType`
finds in the table of carriers, `APN_INVALID` (`0`) where it finds none. -/
structure NetworkAnswers where
  mobileData : Bool
  selectedApn : Option String
  carrierIpType : String → ℕ

namespace AGps

def init : AGps := ⟨none, 0, .closed, none, []⟩

variable (g : AGps)

def call (c : AGpsCall) : AGps := { g with calls := g.calls ++ [c] }

def setRouting : AGps :=
  match g.ipAddr with
  | none => g
  | some addr => g.call (.requestRouteToHostAddress addr)

/-- An APN that is `mAGpsApn` already has the type that is stored, if there is one. -/
def getApnIpType (carrierIpType : String → ℕ) (apn : String) : ℕ :=
  if g.apn = some apn ∧ g.apnIpType ≠ 0 then g.apnIpType else carrierIpType apn

/-- `InetAddress.getByAddress`, which throws unless there are 4 or 16 bytes. -/
def getByAddress (addr : List UInt8) : Option (List UInt8) :=
  if addr.length = 4 ∨ addr.length = 16 then some addr else none

def dataConnOpen (apn : String) : AGps :=
  { (g.setRouting.call (.nativeAgpsDataConnOpen apn g.apnIpType)) with state := .open }

def dataConnFailed : AGps :=
  { (g.call .nativeAgpsDataConnFailed) with state := .closed }

/-- `GPS_REQUEST_AGPS_DATA_CONN`; `result` is that of `startUsingNetworkFeature`, `0` for
`APN_ALREADY_ACTIVE` and `1` for `APN_REQUEST_STARTED`. -/
def requestConn (ipaddr : Option (List UInt8)) (result : Int32) : AGps :=
  let h : AGps :=
    { g with
      state := .opening
      calls := g.calls ++ [.requested, .startUsingNetworkFeature]
      ipAddr := match ipaddr with
        | none => g.ipAddr
        | some addr => getByAddress addr }
  if result = 0 then
    match h.apn with
    | some apn => h.dataConnOpen apn
    | none => h.dataConnFailed
  else if result ≠ 1 then h.dataConnFailed
  else h

/-- `GPS_RELEASE_AGPS_DATA_CONN`. -/
def releaseConn : AGps :=
  if g.state ≠ .closed then
    { g with
      calls := g.calls ++ [.stopUsingNetworkFeature, .nativeAgpsDataConnClosed]
      state := .closed
      ipAddr := none }
  else g

def reportAGpsStatus (status : Int32) (ipaddr : Option (List UInt8)) (result : Int32) : AGps :=
  if status = 1 then g.requestConn ipaddr result
  else if status = 2 then g.releaseConn
  else g

/-- The notice to the engine in `handleUpdateNetworkState`. -/
def noticeNetwork (ans : NetworkAnswers) (info : NetworkInfo) : AGps :=
  g.call (.nativeUpdateNetworkState info.connected info.type info.roaming
    (info.available && ans.mobileData) info.extraInfo (ans.selectedApn.getD "dummy-apn"))

/-- `mAGpsApn` is stored before the type is asked for. -/
def storeApn (ans : NetworkAnswers) (extraInfo : Option String) : AGps :=
  let apn := extraInfo.getD "dummy-apn"
  let h : AGps := { g with apn := some apn }
  { h with apnIpType := h.getApnIpType ans.carrierIpType apn }

/-- `handleUpdateNetworkState`, as far as the connection is concerned; `networkAvailable` is the new
`mNetworkAvailable`. -/
def updateNetwork (networkAvailable : Bool) (ans : NetworkAnswers) : Option NetworkInfo → AGps
  | none => g
  | some info =>
      let h := g.noticeNetwork ans info
      if info.type = typeMobileSupl ∧ h.state = .opening then
        if networkAvailable then
          (h.storeApn ans info.extraInfo).dataConnOpen (info.extraInfo.getD "dummy-apn")
        else dataConnFailed { h with apn := none, apnIpType := 0 }
      else h

/-! ### The conversation -/

end AGps

/-- Nothing is asked for, a request is not answered yet, or the connection is open. -/
inductive Conn where
  | none
  | asked
  | up
  deriving DecidableEq, Repr

/-- The conversation: an answer answers a request, and closing ends a request or a connection. -/
def Conn.step : Conn → AGpsCall → Option Conn
  | _, .requested => some .asked
  | .asked, .nativeAgpsDataConnOpen _ _ => some .up
  | _, .nativeAgpsDataConnOpen _ _ => Option.none
  | .asked, .nativeAgpsDataConnFailed => some .none
  | _, .nativeAgpsDataConnFailed => Option.none
  | .none, .nativeAgpsDataConnClosed => Option.none
  | _, .nativeAgpsDataConnClosed => some .none
  | c, _ => some c

/-- The state that the field is in. -/
def AGpsDataConnectionState.conn : AGpsDataConnectionState → Conn
  | .closed => .none
  | .opening => .asked
  | .open => .up

namespace AGps

/-- The log is a conversation, and the field says where it stands. -/
def Follows (g : AGps) : Prop := Monitor.run Conn.step .none g.calls = some g.state.conn

variable {g h : AGps}

theorem follows_init : Follows init := rfl

/-- What is appended leads on from the state. -/
theorem Follows.append (hg : g.Follows) {l : List AGpsCall} (hcalls : h.calls = g.calls ++ l)
    (hrun : Monitor.run Conn.step g.state.conn l = some h.state.conn) : h.Follows := by
  unfold Follows
  rw [hcalls]
  exact Monitor.run_trans hg hrun

theorem setRouting_calls (g : AGps) : ∃ cs, g.setRouting.calls = g.calls ++ cs ∧
    ∀ c : Conn, Monitor.run Conn.step c cs = some c := by
  unfold setRouting
  cases g.ipAddr with
  | none => exact ⟨[], (List.append_nil _).symm, fun c => rfl⟩
  | some addr => exact ⟨_, rfl, fun c => by cases c <;> rfl⟩

theorem Follows.dataConnOpen (hg : g.Follows) (hstate : g.state = .opening) (apn : String) :
    (g.dataConnOpen apn).Follows := by
  obtain ⟨cs, hcs, hsame⟩ := setRouting_calls g
  refine hg.append (l := cs ++ [.nativeAgpsDataConnOpen apn g.apnIpType]) ?_ ?_
  · show g.setRouting.calls ++ _ = _
    rw [hcs, List.append_assoc]
  · rw [hstate]
    exact Monitor.run_snoc (hsame _) rfl

theorem Follows.dataConnFailed (hg : g.Follows) (hstate : g.state = .opening) :
    g.dataConnFailed.Follows := by
  refine hg.append (l := [.nativeAgpsDataConnFailed]) rfl ?_
  rw [hstate]
  rfl

/-- **What the engine reports** keeps the conversation. -/
theorem follows_report (hg : g.Follows) (status : Int32) (ipaddr : Option (List UInt8))
    (result : Int32) : (g.reportAGpsStatus status ipaddr result).Follows := by
  unfold reportAGpsStatus
  split
  · unfold requestConn
    extract_lets k
    have hk : k.Follows := by
      refine hg.append (l := [.requested, .startUsingNetworkFeature]) rfl ?_
      cases g.state <;> rfl
    split
    · split
      · exact hk.dataConnOpen rfl _
      · exact hk.dataConnFailed rfl
    · split
      · exact hk.dataConnFailed rfl
      · exact hk
  split
  · unfold releaseConn
    split
    · rename_i hopen
      refine hg.append (l := [.stopUsingNetworkFeature, .nativeAgpsDataConnClosed]) rfl ?_
      cases hstate : g.state with
      | closed => exact absurd hstate hopen
      | opening => rfl
      | «open» => rfl
    · exact hg
  · exact hg

/-- **What the network does** keeps the conversation. -/
theorem follows_network (hg : g.Follows) (networkAvailable : Bool) (ans : NetworkAnswers)
    (info : Option NetworkInfo) : (g.updateNetwork networkAvailable ans info).Follows := by
  cases info with
  | none => exact hg
  | some info =>
    have hnotice : (g.noticeNetwork ans info).Follows := by
      refine hg.append rfl ?_
      show Monitor.run Conn.step g.state.conn _ = some g.state.conn
      cases g.state <;> rfl
    show (if _ then _ else _ : AGps).Follows
    split
    · rename_i hopening
      split
      · exact Follows.dataConnOpen (g := (g.noticeNetwork ans info).storeApn ans info.extraInfo)
          hnotice hopening.2 _
      · exact Follows.dataConnFailed
          (g := { g.noticeNetwork ans info with apn := none, apnIpType := 0 }) hnotice hopening.2
    · exact hnotice

end AGps

end CtpCommon.Gps
