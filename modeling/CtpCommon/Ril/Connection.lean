import CtpCommon.Lib.Runs
import CtpCommon.Lib.Descriptors
import CtpCommon.Ril.Requests

/-!
# The command connection

The telephony socket either listens or has one connection.  The callbacks of the event loop change
`watch_table` and `fdCommand` together; `blockingWrite`, on any thread, and the debug port close
the descriptor and leave the rest as it is.

* `connectionSystem` — the callbacks of the event loop, its `select`, and the threads that send.
  No lock orders a sender's reading of `fdCommand` and the end of a connection, which closes the
  descriptor first and resets `fdCommand` after;
* `OneOfTwo` — listening without a connection, or watching the open descriptor of one;
* `connection_discipline` — **PROVED**: in every run without hard write errors, without a radio-off
  from the debug port during a connection, and without a sender that holds the descriptor at its
  close or reads it between the close and the reset, every state between two callbacks is one of
  the two, and every accepted descriptor is closed at most once and never used after;
* `disturbed_runs` — for each of the disturbances a run that breaks this.
-/

namespace CtpCommon.Ril

open Descriptors

/-! ### The watch table -/

/-- The entries of `watch_table` the telephony socket shares the table with, and its own. -/
inductive WatchedEvent where
  | wakeupfd | listen | commands | debug
  deriving DecidableEq, Repr

/-- `MAX_FD_EVENTS`. -/
def maxFdEvents : ℕ := 8

/-- `ril_event_add`: an event that finds no free slot is not added. -/
def rilEventAdd (ev : WatchedEvent) (watchTable : List WatchedEvent) : List WatchedEvent :=
  if watchTable.length < maxFdEvents then watchTable ++ [ev] else watchTable

/-- `ril_event_del`, and the removal of an event that is not persistent. -/
def removeWatch (ev : WatchedEvent) (watchTable : List WatchedEvent) : List WatchedEvent :=
  watchTable.erase ev

/-! ### The state -/

/-- What is done with an accepted descriptor. -/
inductive DescriptorUse where
  | wrote (bytes : List UInt8)
  | selected
  deriving DecidableEq, Repr

/-- A thread in `sendResponseRaw`, with the descriptor it read from `fdCommand`; it holds
`s_writeMutex` between its two writes. -/
structure Sender where
  fd : ℤ
  data : List UInt8
  headerWritten : Bool
  deriving DecidableEq, Repr

/-- The variables of the socket, whether the event loop stands between the `close` of a connection
and its reset, the threads that send, what has happened to accepted descriptors, and whether
`select` has failed, after which the process kills itself. -/
structure ConnectionState where
  watchTable : List WatchedEvent
  commandsEventFd : ℤ
  fdCommand : ℤ
  closing : Bool
  senders : List Sender
  log : List (Event DescriptorUse)
  killed : Bool

/-- The accepted descriptors that are open. -/
def ConnectionState.openFds (s : ConnectionState) : Finset ℤ := table s.log

def ChannelEvent.event : ChannelEvent → Event DescriptorUse
  | .wrote fd bytes => .used fd (.wrote bytes)
  | .closed fd => .closed fd

/-- Add to the log. -/
def ConnectionState.did (s : ConnectionState) (events : List (Event DescriptorUse)) :
    ConnectionState :=
  { s with log := s.log ++ events }

/-! ### The callbacks -/

/-- A message the event loop itself sends, and the errors of its two writes. -/
abbrev LoopSend := List UInt8 × WriteFaults

/-- What the event loop sends during a callback. -/
def loopSends (sends : List LoopSend) (s : ConnectionState) : ConnectionState :=
  sends.foldl
    (fun s m => s.did ((sendResponseRaw s.fdCommand m.1 m.2).2.map ChannelEvent.event)) s

/-- How `accept` ends: an error, a peer with the wrong credentials, or a connection. -/
inductive Accepted where
  | failed
  | rejected (fd : ℕ)
  | connected (fd : ℕ) (sends : List LoopSend)

/-- `listenCallback`; the listening event is not persistent, and has left the table. -/
def listenCallback (accepted : Accepted) (s : ConnectionState) : ConnectionState :=
  let s := { s with watchTable := removeWatch .listen s.watchTable }
  match accepted with
  | .failed => { s with watchTable := rilEventAdd .listen s.watchTable }
  | .rejected fd =>
      { s with watchTable := rilEventAdd .listen s.watchTable }.did [.opened fd, .closed fd]
  | .connected fd sends =>
      let s := s.did [.opened fd]
      -- `onNewCommandConnect` sends
      loopSends sends { s with
        fdCommand := fd
        commandsEventFd := fd
        watchTable := rilEventAdd .commands s.watchTable }

/-- `processCommandsCallback`: records until `EAGAIN`, or until the stream ends or fails; then it
closes the descriptor. -/
def processCommandsCallback (sends : List LoopSend) (ends : Bool) (s : ConnectionState) :
    ConnectionState :=
  let s := loopSends sends s
  if ends then { s with closing := true }.did [.closed s.commandsEventFd] else s

/-- The rest of `processCommandsCallback` after `close(fd)`, in which the next statement resets
`fdCommand`. -/
def resetConnection (s : ConnectionState) : ConnectionState :=
  { s with
    fdCommand := -1
    closing := false
    watchTable := rilEventAdd .listen (removeWatch .commands s.watchTable) }

/-- How the debug port's `accept` and reads end; after a failed read its descriptor stays open. -/
inductive DebugPort where
  | failed
  | unread (fd : ℕ)
  | command (fd : ℕ) (number : ℤ)

/-- `debugCallback`; only the radio power command `1` touches the connection. -/
def debugCallback (port : DebugPort) (sends : List LoopSend) (s : ConnectionState) :
    ConnectionState :=
  match port with
  | .failed => s
  | .unread fd => s.did [.opened fd]
  | .command fd number =>
      let s := loopSends sends (s.did [.opened fd])
      let s := if number = 1 ∧ 0 < s.fdCommand then
        { s with fdCommand := -1 }.did [.closed s.fdCommand] else s
      s.did [.closed fd]

/-- The descriptor of the connection in the set `select` is called with. -/
def selectFds (s : ConnectionState) : List (Event DescriptorUse) :=
  if WatchedEvent.commands ∈ s.watchTable then [.used s.commandsEventFd .selected] else []

/-- `select` fails on a set with a closed descriptor. -/
def enterSelect (s : ConnectionState) : ConnectionState :=
  { s with killed := decide (WatchedEvent.commands ∈ s.watchTable ∧
      s.commandsEventFd ∉ s.openFds) }.did (selectFds s)

/-! ### The senders -/

/-- The start of `sendResponseRaw`: the descriptor, and the two guards. -/
def captureFd (data : List UInt8) (s : ConnectionState) : ConnectionState :=
  if s.fdCommand < 0 then s
  else if data.length > maxCommandBytes then s
  else { s with senders := s.senders ++ [⟨s.fdCommand, data, false⟩] }

/-- The first write, after `s_writeMutex` is taken; an error ends the sending. -/
def writeHeader (i : ℕ) (x : Sender) (fault : Option ℕ) (s : ConnectionState) : ConnectionState :=
  let w := blockingWrite x.fd (htonl x.data.length) fault
  { s with senders :=
      if w.1 < 0 then s.senders.eraseIdx i else s.senders.set i { x with headerWritten := true }
    }.did (w.2.map ChannelEvent.event)

/-- The second write. -/
def writeBody (i : ℕ) (x : Sender) (fault : Option ℕ) (s : ConnectionState) : ConnectionState :=
  { s with senders := s.senders.eraseIdx i }.did
    ((blockingWrite x.fd x.data fault).2.map ChannelEvent.event)

/-! ### Runs -/

inductive ConnectionAction where
  | listenCallback (accepted : Accepted)
  | processCommandsCallback (sends : List LoopSend) (ends : Bool)
  | resetConnection
  | debugCallback (port : DebugPort) (sends : List LoopSend)
  | enterSelect
  | captureFd (data : List UInt8)
  | writeHeader (i : ℕ) (fault : Option ℕ)
  | writeBody (i : ℕ) (fault : Option ℕ)

/-- The kernel hands out numbers that are not in use. -/
def FreshFd (s : ConnectionState) : ConnectionAction → Prop
  | .listenCallback (.rejected fd) | .listenCallback (.connected fd _)
  | .debugCallback (.unread fd) _ | .debugCallback (.command fd _) _ => (fd : ℤ) ∉ s.openFds
  | _ => True

instance (s : ConnectionState) : DecidablePred (FreshFd s) := fun a =>
  match a with
  | .listenCallback (.rejected fd) | .listenCallback (.connected fd _)
  | .debugCallback (.unread fd) _ | .debugCallback (.command fd _) _ =>
      inferInstanceAs (Decidable ((fd : ℤ) ∉ s.openFds))
  | .listenCallback .failed | .debugCallback .failed _ | .processCommandsCallback ..
  | .resetConnection | .enterSelect | .captureFd _ | .writeHeader .. | .writeBody .. =>
      .isTrue trivial

/-- The event loop starts nothing new while it stands between the `close` and the reset. -/
def stepEnabled (s : ConnectionState) : ConnectionAction → Option ConnectionState
  | .listenCallback accepted =>
      if .listen ∈ s.watchTable ∧ s.closing = false then some (listenCallback accepted s) else none
  | .processCommandsCallback sends ends =>
      if .commands ∈ s.watchTable ∧ s.closing = false then
        some (processCommandsCallback sends ends s) else none
  | .resetConnection => if s.closing then some (resetConnection s) else none
  | .debugCallback port sends =>
      if .debug ∈ s.watchTable ∧ s.closing = false then some (debugCallback port sends s) else none
  | .enterSelect => if s.closing then none else some (enterSelect s)
  | .captureFd data => some (captureFd data s)
  | .writeHeader i fault =>
      s.senders[i]?.bind fun x =>
        if ∀ y ∈ s.senders, y.headerWritten = false then some (writeHeader i x fault s) else none
  | .writeBody i fault =>
      s.senders[i]?.bind fun x =>
        if x.headerWritten then some (writeBody i x fault s) else none

/-- One step of the event loop or of a sender. -/
def connectionStep (s : ConnectionState) (a : ConnectionAction) : Option ConnectionState :=
  if s.killed = false ∧ FreshFd s a then stepEnabled s a else none

/-- After `RIL_register`. -/
def connectionInit : ConnectionState where
  watchTable := [.wakeupfd, .listen, .debug]
  commandsEventFd := 0
  fdCommand := -1
  closing := false
  senders := []
  log := []
  killed := false

def connectionSystem : Runs.System ConnectionState ConnectionAction :=
  ⟨connectionInit, connectionStep⟩

/-! ### What is to hold -/

/-- Listening, without a connection. -/
def Listens (s : ConnectionState) : Prop := .listen ∈ s.watchTable ∧ s.fdCommand = -1

/-- Watching the open descriptor of a connection. -/
def Connected (s : ConnectionState) : Prop :=
  .commands ∈ s.watchTable ∧ s.fdCommand ∈ s.openFds ∧ s.fdCommand = s.commandsEventFd

/-- Exactly one of the two. -/
def OneOfTwo (s : ConnectionState) : Prop := Xor (Listens s) (Connected s)

/-- Between a close of a descriptor and a later close, write or `select` it was accepted anew. -/
def ClosedForGood (s : ConnectionState) : Prop :=
  ∀ (l₁ l₂ l₃ : List (Event DescriptorUse)) (fd : ℤ) (e : Event DescriptorUse),
    s.log = l₁ ++ .closed fd :: l₂ ++ e :: l₃ →
    (e = .closed fd ∨ ∃ what, e = .used fd what) → .opened fd ∈ l₂

def NoFaults (sends : List LoopSend) : Prop := ∀ m ∈ sends, m.2 = noFaults

/-- No hard write error, no radio-off from the debug port during a connection, no close while a
sender holds the descriptor, and no sender that takes it between the close and the reset; one whose
message is too large does not. -/
def Undisturbed (s : ConnectionState) : ConnectionAction → Prop
  | .listenCallback (.connected _ sends) => NoFaults sends
  | .listenCallback _ => True
  | .processCommandsCallback sends ends => NoFaults sends ∧ (ends = true → s.senders = [])
  | .resetConnection => True
  | .debugCallback (.command _ number) sends =>
      NoFaults sends ∧ ¬ (number = 1 ∧ 0 < s.fdCommand)
  | .debugCallback _ _ => True
  | .enterSelect => True
  | .captureFd data => s.closing = true → maxCommandBytes < data.length
  | .writeHeader _ fault => fault = none
  | .writeBody _ fault => fault = none

/-! ### The invariant -/

/-- The table has one entry of the socket besides the wakeup pipe and the debug port; the
descriptors of the connection and of the senders are open; the log is disciplined. -/
structure ConnectionInv (s : ConnectionState) : Prop where
  nodup : s.watchTable.Nodup
  length : s.watchTable.length = 3
  phase : (.listen ∈ s.watchTable ∧ .commands ∉ s.watchTable ∧ s.fdCommand = -1 ∧
      s.closing = false) ∨
    (.commands ∈ s.watchTable ∧ .listen ∉ s.watchTable ∧
      (s.closing = false → 0 ≤ s.fdCommand ∧ s.fdCommand = s.commandsEventFd ∧
        s.fdCommand ∈ s.openFds))
  senders : ∀ x ∈ s.senders, x.fd ∈ s.openFds
  disciplined : Disciplined s.log

theorem ConnectionInv.fdCommand_open {s : ConnectionState} (hs : ConnectionInv s)
    (hclosing : s.closing = false) (hfd : 0 ≤ s.fdCommand) : s.fdCommand ∈ s.openFds := by
  rcases hs.phase with ⟨-, -, hneg, -⟩ | ⟨-, -, hconnected⟩
  · omega
  · exact (hconnected hclosing).2.2

/-- Watching the commands goes with an open connection. -/
theorem ConnectionInv.connected {s : ConnectionState} (hs : ConnectionInv s)
    (hcommands : .commands ∈ s.watchTable) (hclosing : s.closing = false) :
    .listen ∉ s.watchTable ∧ 0 ≤ s.fdCommand ∧ s.fdCommand = s.commandsEventFd ∧
      s.fdCommand ∈ s.openFds := by
  rcases hs.phase with ⟨-, hnot, -⟩ | ⟨-, hlisten, hconnected⟩
  · exact absurd hcommands hnot
  · exact ⟨hlisten, hconnected hclosing⟩

theorem ConnectionInv.oneOfTwo {s : ConnectionState} (hs : ConnectionInv s)
    (hclosing : s.closing = false) : OneOfTwo s := by
  rcases hs.phase with ⟨hlisten, hnot, hfd, -⟩ | ⟨hcommands, hnot, hconnected⟩
  · exact .inl ⟨⟨hlisten, hfd⟩, fun h => hnot h.1⟩
  · obtain ⟨-, heq, hopen⟩ := hconnected hclosing
    exact .inr ⟨⟨hcommands, hopen, heq⟩, fun h => hnot h.1⟩

/-- What happens to descriptors keeps the invariant if none that was open is closed. -/
theorem ConnectionInv.did {s : ConnectionState} (hs : ConnectionInv s)
    {events : List (Event DescriptorUse)} (hdis : Disciplined (s.log ++ events))
    (hopen : s.openFds ⊆ table (s.log ++ events)) : ConnectionInv (s.did events) := by
  refine ⟨hs.nodup, hs.length, ?_, fun x hx => hopen (hs.senders x hx), hdis⟩
  rcases hs.phase with hidle | ⟨hcommands, hlisten, hconnected⟩
  · exact .inl hidle
  · refine .inr ⟨hcommands, hlisten, fun hclosing => ?_⟩
    obtain ⟨hpos, heq, hfd⟩ := hconnected hclosing
    exact ⟨hpos, heq, hopen hfd⟩

theorem ConnectionInv.uses {s : ConnectionState} (hs : ConnectionInv s)
    {events : List (Event DescriptorUse)}
    (huse : ∀ e ∈ events, ∃ fd what, e = .used fd what ∧ fd ∈ s.openFds) :
    ConnectionInv (s.did events) := by
  obtain ⟨hdis, htable⟩ := hs.disciplined.uses _ huse
  exact hs.did hdis (htable ▸ Finset.Subset.refl _)

/-- One entry of the socket replaces the other, or itself. -/
theorem replaceWatch {l : List WatchedEvent} {a b : WatchedEvent} (hnodup : l.Nodup)
    (hlength : l.length = 3) (ha : a ∈ l) (hb : b ∉ removeWatch a l) :
    (rilEventAdd b (removeWatch a l)).Nodup ∧ (rilEventAdd b (removeWatch a l)).length = 3 ∧
      ∀ c, c ∈ rilEventAdd b (removeWatch a l) ↔ (c ∈ l ∧ c ≠ a) ∨ c = b := by
  have hlen : (removeWatch a l).length = 2 := by
    unfold removeWatch
    rw [List.length_erase_of_mem ha, hlength]
  have hadd : rilEventAdd b (removeWatch a l) = removeWatch a l ++ [b] := by
    unfold rilEventAdd maxFdEvents
    rw [if_pos (by omega)]
  rw [hadd]
  refine ⟨?_, ?_, ?_⟩
  · rw [List.nodup_append]
    refine ⟨hnodup.erase a, List.nodup_singleton b, fun x hx y hy hxy => hb ?_⟩
    obtain rfl := List.mem_singleton.mp hy
    exact hxy ▸ hx
  · rw [List.length_append, hlen]
    rfl
  · intro c
    unfold removeWatch
    rw [List.mem_append, hnodup.mem_erase_iff, List.mem_singleton]
    tauto

/-! ### The sends of the event loop -/

/-- Without errors `sendResponseRaw` only writes. -/
theorem sendResponseRaw_uses (fd : ℤ) (data : List UInt8) :
    ∀ e ∈ (sendResponseRaw fd data noFaults).2.map ChannelEvent.event,
      0 ≤ fd ∧ ∃ what, e = .used fd what := by
  by_cases hfd : fd < 0
  · rw [show sendResponseRaw fd data noFaults = (-1, []) from if_pos hfd]
    intro e he
    exact absurd he List.not_mem_nil
  · by_cases hlen : data.length ≤ maxCommandBytes
    · rw [sendResponseRaw_frame (by omega) hlen]
      intro e he
      have hcases : e = .used fd (.wrote (htonl data.length)) ∨ e = .used fd (.wrote data) := by
        simpa [frame, ChannelEvent.event] using he
      rcases hcases with rfl | rfl
      · exact ⟨by omega, _, rfl⟩
      · exact ⟨by omega, _, rfl⟩
    · rw [sendResponseRaw_large (by omega)]
      intro e he
      exact absurd he List.not_mem_nil

theorem loopSends_uses {sends : List LoopSend} (hf : NoFaults sends) (s : ConnectionState) :
    ∃ events, loopSends sends s = s.did events ∧
      ∀ e ∈ events, 0 ≤ s.fdCommand ∧ ∃ what, e = .used s.fdCommand what := by
  induction sends generalizing s with
  | nil => exact ⟨[], by simp [loopSends, ConnectionState.did], by simp⟩
  | cons m sends ih =>
    obtain ⟨events, hevents, huse⟩ := ih (fun x hx => hf x (List.mem_cons_of_mem _ hx))
      (s.did ((sendResponseRaw s.fdCommand m.1 m.2).2.map ChannelEvent.event))
    refine ⟨(sendResponseRaw s.fdCommand m.1 m.2).2.map ChannelEvent.event ++ events, ?_, ?_⟩
    · refine hevents.trans ?_
      unfold ConnectionState.did
      rw [List.append_assoc]
    · intro e he
      rcases List.mem_append.mp he with hfirst | hrest
      · rw [hf m (List.mem_cons_self ..)] at hfirst
        exact sendResponseRaw_uses _ _ e hfirst
      · exact huse e hrest

theorem ConnectionInv.loopSends {s : ConnectionState} (hs : ConnectionInv s)
    (hclosing : s.closing = false) {sends : List LoopSend} (hf : NoFaults sends) :
    ConnectionInv (loopSends sends s) := by
  obtain ⟨events, heq, huse⟩ := loopSends_uses hf s
  rw [heq]
  refine hs.uses fun e he => ?_
  obtain ⟨hfd, what, rfl⟩ := huse e he
  exact ⟨_, what, rfl, hs.fdCommand_open hclosing hfd⟩

/-! ### The callbacks keep the invariant -/

/-- A descriptor that is accepted, used as the connection is, and closed leaves no trace. -/
theorem opened_closed {s : ConnectionState} (hs : ConnectionInv s) {fd : ℤ}
    (hfd : fd ∉ s.openFds) (events : List (Event DescriptorUse))
    (huse : ∀ e ∈ events, ∃ fd what, e = .used fd what ∧ fd ∈ s.openFds) :
    ConnectionInv (((s.did [.opened fd]).did events).did [.closed fd]) := by
  have hopen : Disciplined (s.log ++ [Event.opened fd]) := .concat hs.disciplined hfd
  obtain ⟨hdis, htable⟩ := hopen.uses events fun e he => by
    obtain ⟨n, what, rfl, hn⟩ := huse e he
    exact ⟨n, what, rfl, by rw [table_opened]; exact Finset.mem_insert_of_mem hn⟩
  have hclosed : Disciplined (s.log ++ [Event.opened fd] ++ events ++ [Event.closed fd]) := by
    refine .concat hdis ?_
    show fd ∈ table _
    rw [htable, table_opened]
    exact Finset.mem_insert_self _ _
  have hsame : table (s.log ++ [Event.opened fd] ++ events ++ [Event.closed fd]) = s.openFds := by
    rw [table_closed, htable, table_opened]
    exact Finset.erase_insert hfd
  have heq : ((s.did [Event.opened fd]).did events).did [Event.closed fd]
      = s.did ([Event.opened fd] ++ events ++ [Event.closed fd]) := by
    simp only [ConnectionState.did, List.append_assoc]
  have happ : s.log ++ ([Event.opened fd] ++ events ++ [Event.closed fd])
      = s.log ++ [Event.opened fd] ++ events ++ [Event.closed fd] := by
    simp only [List.append_assoc]
  rw [← happ] at hclosed hsame
  rw [heq]
  exact hs.did hclosed hsame.ge

theorem listenCallback_inv {s : ConnectionState} {accepted : Accepted} (hs : ConnectionInv s)
    (hlisten : .listen ∈ s.watchTable) (hfresh : FreshFd s (.listenCallback accepted))
    (hok : Undisturbed s (.listenCallback accepted)) :
    ConnectionInv (listenCallback accepted s) := by
  have hidle : .commands ∉ s.watchTable ∧ s.fdCommand = -1 ∧ s.closing = false := by
    rcases hs.phase with ⟨-, hnot, hfd⟩ | ⟨-, hnot, -⟩
    · exact ⟨hnot, hfd⟩
    · exact absurd hlisten hnot
  obtain ⟨hcommands, hfd, hclosing⟩ := hidle
  have hagain : ConnectionInv { s with
      watchTable := rilEventAdd .listen (removeWatch .listen s.watchTable) } := by
    obtain ⟨hnodup, hlength, hmem⟩ := replaceWatch (b := .listen) hs.nodup hs.length hlisten
      (by unfold removeWatch; exact hs.nodup.not_mem_erase)
    refine ⟨hnodup, hlength, .inl ⟨(hmem _).mpr (.inr rfl), ?_, hfd, hclosing⟩, hs.senders,
      hs.disciplined⟩
    intro hmem'
    rcases (hmem _).mp hmem' with ⟨hold, -⟩ | hnew
    · exact hcommands hold
    · exact absurd hnew (by decide)
  cases accepted with
  | failed => exact hagain
  | rejected fd =>
    have h := opened_closed hagain (show (fd : ℤ) ∉ _ from hfresh) [] (by simp)
    simp only [ConnectionState.did, List.append_assoc, List.append_nil] at h
    exact h
  | connected fd sends =>
    refine ConnectionInv.loopSends ?_ ?_ hok
    swap
    · exact hclosing
    obtain ⟨hnodup, hlength, hmem⟩ := replaceWatch (b := .commands) hs.nodup hs.length hlisten
      (fun h => hcommands (List.mem_of_mem_erase h))
    have htable : table (s.log ++ [Event.opened (fd : ℤ)]) = insert (fd : ℤ) s.openFds :=
      table_opened
    refine ⟨hnodup, hlength, .inr ⟨(hmem _).mpr (.inr rfl), ?_, fun _ => ⟨by simp, rfl, ?_⟩⟩, ?_,
      .concat hs.disciplined hfresh⟩
    · intro hmem'
      rcases (hmem _).mp hmem' with ⟨-, hne⟩ | hnew
      · exact hne rfl
      · exact absurd hnew (by decide)
    · show (fd : ℤ) ∈ table (s.log ++ [Event.opened (fd : ℤ)])
      rw [htable]
      exact Finset.mem_insert_self _ _
    · intro x hx
      show x.fd ∈ table (s.log ++ [Event.opened (fd : ℤ)])
      rw [htable]
      exact Finset.mem_insert_of_mem (hs.senders x hx)

theorem processCommandsCallback_inv {s : ConnectionState} {sends : List LoopSend} {ends : Bool}
    (hs : ConnectionInv s) (hcommands : .commands ∈ s.watchTable) (hclosing : s.closing = false)
    (hf : NoFaults sends) (hsenders : ends = true → s.senders = []) :
    ConnectionInv (processCommandsCallback sends ends s) := by
  obtain ⟨events, heq, huse⟩ := loopSends_uses hf s
  have hsent : ConnectionInv (s.did events) := heq ▸ hs.loopSends hclosing hf
  unfold processCommandsCallback
  rw [heq]
  cases ends with
  | false => exact hsent
  | true =>
    obtain ⟨hlisten, -, hfd, hopen⟩ := hsent.connected hcommands hclosing
    refine ⟨hs.nodup, hs.length, .inr ⟨hcommands, hlisten, fun h => absurd h (by simp [
      ConnectionState.did])⟩, ?_, .concat hsent.disciplined (hfd ▸ hopen)⟩
    intro x hx
    have hx' : x ∈ s.senders := hx
    rw [hsenders rfl] at hx'
    exact absurd hx' List.not_mem_nil

theorem resetConnection_inv {s : ConnectionState} (hs : ConnectionInv s)
    (hclosing : s.closing = true) : ConnectionInv (resetConnection s) := by
  rcases hs.phase with ⟨-, -, -, hnot⟩ | ⟨hcommands, hlisten, -⟩
  · rw [hclosing] at hnot
    exact Bool.noConfusion hnot
  · obtain ⟨hnodup, hlength, hmem⟩ := replaceWatch (b := .listen) hs.nodup hs.length hcommands
      (fun h => hlisten (List.mem_of_mem_erase h))
    refine ⟨hnodup, hlength, .inl ⟨(hmem _).mpr (.inr rfl), ?_, rfl, rfl⟩, hs.senders,
      hs.disciplined⟩
    intro hmem'
    rcases (hmem _).mp hmem' with ⟨-, hne⟩ | hnew
    · exact hne rfl
    · exact absurd hnew (by decide)

theorem debugCallback_inv {s : ConnectionState} {port : DebugPort} {sends : List LoopSend}
    (hs : ConnectionInv s) (hclosing : s.closing = false)
    (hfresh : FreshFd s (.debugCallback port sends))
    (hok : Undisturbed s (.debugCallback port sends)) :
    ConnectionInv (debugCallback port sends s) := by
  cases port with
  | failed => exact hs
  | unread fd =>
    refine hs.did (.concat hs.disciplined hfresh) ?_
    rw [table_opened]
    exact Finset.subset_insert _ _
  | command fd number =>
    obtain ⟨hf, hoff⟩ := hok
    obtain ⟨events, heq, huse⟩ := loopSends_uses hf (s.did [.opened (fd : ℤ)])
    have hkeep : debugCallback (.command fd number) sends s
        = ((s.did [.opened (fd : ℤ)]).did events).did [.closed (fd : ℤ)] := by
      simp only [debugCallback, heq]
      exact congrArg (ConnectionState.did · _) (if_neg hoff)
    rw [hkeep]
    refine opened_closed hs hfresh _ fun e he => ?_
    obtain ⟨hpos, what, rfl⟩ := huse e he
    exact ⟨_, what, rfl, hs.fdCommand_open hclosing hpos⟩

/-! ### Selecting, and sending on other threads -/

theorem enterSelect_inv {s : ConnectionState} (hs : ConnectionInv s) (hclosing : s.closing = false) :
    ConnectionInv (enterSelect s) := by
  have hkilled : ∀ b, ConnectionInv { s with killed := b } := fun b =>
    ⟨hs.nodup, hs.length, hs.phase, hs.senders, hs.disciplined⟩
  refine (hkilled _).uses fun e he => ?_
  unfold selectFds at he
  split at he
  · rename_i hwatch
    obtain ⟨-, -, hfd, hopen⟩ := hs.connected hwatch hclosing
    obtain rfl := List.mem_singleton.mp he
    exact ⟨_, _, rfl, hfd ▸ hopen⟩
  · exact absurd he List.not_mem_nil

theorem captureFd_inv {s : ConnectionState} {data : List UInt8} (hs : ConnectionInv s)
    (hok : Undisturbed s (.captureFd data)) : ConnectionInv (captureFd data s) := by
  unfold captureFd
  split
  · exact hs
  rename_i hpos
  split
  · exact hs
  rename_i hlen
  have hclosing : s.closing = false := Bool.eq_false_of_not_eq_true fun h => hlen (hok h)
  refine ⟨hs.nodup, hs.length, hs.phase, fun x hx => ?_, hs.disciplined⟩
  rcases List.mem_append.mp hx with hold | hnew
  · exact hs.senders x hold
  · obtain rfl := List.mem_singleton.mp hnew
    exact hs.fdCommand_open hclosing (by omega)

theorem writeHeader_inv {s : ConnectionState} {i : ℕ} {x : Sender} (hs : ConnectionInv s)
    (hfd : x.fd ∈ s.openFds) : ConnectionInv (writeHeader i x none s) := by
  have hset : ConnectionInv
      { s with senders := s.senders.set i { x with headerWritten := true } } := by
    refine ⟨hs.nodup, hs.length, hs.phase, fun y hy => ?_, hs.disciplined⟩
    rcases List.mem_or_eq_of_mem_set hy with hold | rfl
    · exact hs.senders y hold
    · exact hfd
  refine hset.uses fun e he => ?_
  obtain rfl := List.mem_singleton.mp he
  exact ⟨_, _, rfl, hfd⟩

theorem writeBody_inv {s : ConnectionState} {i : ℕ} {x : Sender} (hs : ConnectionInv s)
    (hfd : x.fd ∈ s.openFds) : ConnectionInv (writeBody i x none s) := by
  have herase : ConnectionInv { s with senders := s.senders.eraseIdx i } :=
    ⟨hs.nodup, hs.length, hs.phase, fun y hy => hs.senders y (List.mem_of_mem_eraseIdx hy),
      hs.disciplined⟩
  refine herase.uses fun e he => ?_
  obtain rfl := List.mem_singleton.mp he
  exact ⟨_, _, rfl, hfd⟩

/-! ### Every step -/

/-- **Every undisturbed step keeps the invariant.** -/
theorem connectionStep_inv {s s' : ConnectionState} {a : ConnectionAction}
    (hs : ConnectionInv s) (hok : Undisturbed s a) (h : connectionStep s a = some s') :
    ConnectionInv s' := by
  unfold connectionStep at h
  obtain ⟨⟨-, hfresh⟩, hstep⟩ := Option.ite_none_right_eq_some.mp h
  cases a with
  | listenCallback accepted =>
    obtain ⟨hwatch, heq⟩ := Option.ite_none_right_eq_some.mp hstep
    obtain rfl := Option.some.inj heq
    exact listenCallback_inv hs hwatch.1 hfresh hok
  | processCommandsCallback sends ends =>
    obtain ⟨hwatch, heq⟩ := Option.ite_none_right_eq_some.mp hstep
    obtain rfl := Option.some.inj heq
    exact processCommandsCallback_inv hs hwatch.1 hwatch.2 hok.1 hok.2
  | resetConnection =>
    obtain ⟨hclosing, heq⟩ := Option.ite_none_right_eq_some.mp hstep
    obtain rfl := Option.some.inj heq
    exact resetConnection_inv hs hclosing
  | debugCallback port sends =>
    obtain ⟨hwatch, heq⟩ := Option.ite_none_right_eq_some.mp hstep
    obtain rfl := Option.some.inj heq
    exact debugCallback_inv hs hwatch.2 hfresh hok
  | enterSelect =>
    obtain ⟨hclosing, heq⟩ := Option.ite_none_left_eq_some.mp hstep
    obtain rfl := Option.some.inj heq
    exact enterSelect_inv hs (Bool.eq_false_of_not_eq_true hclosing)
  | captureFd data =>
    obtain rfl := Option.some.inj hstep
    exact captureFd_inv hs hok
  | writeHeader i fault =>
    obtain ⟨x, hx, hguard⟩ := Option.bind_eq_some_iff.mp hstep
    obtain ⟨-, heq⟩ := Option.ite_none_right_eq_some.mp hguard
    obtain rfl := Option.some.inj heq
    obtain rfl : fault = none := hok
    exact writeHeader_inv hs (hs.senders x (List.mem_of_getElem? hx))
  | writeBody i fault =>
    obtain ⟨x, hx, hguard⟩ := Option.bind_eq_some_iff.mp hstep
    obtain ⟨-, heq⟩ := Option.ite_none_right_eq_some.mp hguard
    obtain rfl := Option.some.inj heq
    obtain rfl : fault = none := hok
    exact writeBody_inv hs (hs.senders x (List.mem_of_getElem? hx))

/-- **The connection state machine.**  In every undisturbed run the socket, between two callbacks,
either listens or watches the open descriptor of its connection, and no accepted descriptor is
closed twice, or written or selected on after its close. -/
theorem connection_discipline {s : ConnectionState}
    (h : Runs.Reaches connectionSystem Undisturbed s) :
    (s.closing = false → OneOfTwo s) ∧ ClosedForGood s := by
  have hinv : ConnectionInv s := by
    refine h.invariant ⟨by decide, rfl, .inl ⟨by decide, by decide, rfl, rfl⟩, ?_, .nil⟩
      connectionStep_inv
    intro x hx
    exact absurd hx List.not_mem_nil
  exact ⟨hinv.oneOfTwo, fun l₁ l₂ l₃ fd e hlog he => hinv.disciplined.reopened hlog he⟩

/-! ### Five runs -/

instance : DecidablePred NoFaults := fun sends =>
  inferInstanceAs (Decidable (∀ m ∈ sends, m.2 = noFaults))

instance (s : ConnectionState) : DecidablePred (Undisturbed s) := fun a =>
  match a with
  | .listenCallback (.connected _ sends) => inferInstanceAs (Decidable (NoFaults sends))
  | .processCommandsCallback sends ends =>
      inferInstanceAs (Decidable (NoFaults sends ∧ (ends = true → s.senders = [])))
  | .debugCallback (.command _ number) sends =>
      inferInstanceAs (Decidable (NoFaults sends ∧ ¬ (number = 1 ∧ 0 < s.fdCommand)))
  | .captureFd data =>
      inferInstanceAs (Decidable (s.closing = true → maxCommandBytes < data.length))
  | .writeHeader _ fault | .writeBody _ fault => inferInstanceAs (Decidable (fault = none))
  | .listenCallback .failed | .listenCallback (.rejected _) | .resetConnection
  | .debugCallback .failed _ | .debugCallback (.unread _) _ | .enterSelect => .isTrue trivial

/-- A connection on descriptor `5`, and a thread that has read its number. -/
def senderCaptured : List ConnectionAction :=
  [.listenCallback (.connected 5 []), .captureFd [0, 0, 0, 0]]

/-- The thread sends, `select` is called, the debug port reads a command, and the stream ends. -/
theorem connection_served : ∃ s : ConnectionState, s.log.length = 7 ∧ OneOfTwo s ∧
    ClosedForGood s := by
  have hrun : (Runs.exec connectionSystem Undisturbed connectionInit (senderCaptured ++
      [.writeHeader 0 none, .writeBody 0 none, .enterSelect, .debugCallback (.command 6 0) [],
        .processCommandsCallback [] true, .resetConnection])).map
      (fun s => (s.log.length, s.closing)) = some (7, false) := by
    decide +kernel
  obtain ⟨s, hs, hval⟩ := Option.map_eq_some_iff.mp hrun
  obtain ⟨hlen, hclosing⟩ := Prod.mk.inj hval
  obtain ⟨hone, hgood⟩ := connection_discipline (Runs.reaches_of_exec hs)
  exact ⟨s, hlen, hone hclosing, hgood⟩

/-- The stream ends while the thread still holds the number. -/
def closedUnderSender : List ConnectionAction :=
  senderCaptured ++ [.processCommandsCallback [] true, .resetConnection]

/-- A thread reads the number when it is closed and not yet reset. -/
def capturedWhileClosing : List ConnectionAction :=
  [.listenCallback (.connected 5 []), .processCommandsCallback [] true, .captureFd [0, 0, 0, 0],
    .resetConnection]

/-- **Each disturbance breaks the discipline**: a hard write error leaves `fdCommand` closed and
watched, the debug port's radio-off leaves a connection watched and none recorded, and a sender
that holds the descriptor of a closed connection, wherever it has read it, writes to it and closes
it again. -/
theorem disturbed_runs :
    (∃ s, Runs.Reachable connectionSystem s ∧ s.closing = false ∧ ¬ OneOfTwo s ∧
      s.fdCommand ∉ s.openFds) ∧
    (∃ s, Runs.Reachable connectionSystem s ∧ s.closing = false ∧ ¬ OneOfTwo s ∧
      .commands ∈ s.watchTable) ∧
    ∀ actions ∈ [closedUnderSender, capturedWhileClosing],
      ∃ s, Runs.exec connectionSystem (fun _ _ => True) connectionInit
          (actions ++ [.writeHeader 0 (some 0)]) = some s ∧ OneOfTwo s ∧ ¬ ClosedForGood s := by
  refine ⟨?_, ?_, ?_⟩
  · have hrun : (Runs.exec connectionSystem (fun _ _ => True) connectionInit
        (senderCaptured ++ [.writeHeader 0 (some 0)])).map
        (fun s => (s.fdCommand, s.closing, s.openFds)) = some (5, false, ∅) := by decide +kernel
    obtain ⟨s, hs, hval⟩ := Option.map_eq_some_iff.mp hrun
    obtain ⟨hfd, hval⟩ := Prod.mk.inj hval
    obtain ⟨hclosing, hopen⟩ := Prod.mk.inj hval
    have hclosed : s.fdCommand ∉ s.openFds := by
      rw [hopen]
      exact Finset.notMem_empty _
    refine ⟨s, Runs.reaches_of_exec hs, hclosing, ?_, hclosed⟩
    rintro (⟨⟨-, hneg⟩, -⟩ | ⟨⟨-, hmem, -⟩, -⟩)
    · rw [hfd] at hneg
      exact absurd hneg (by decide)
    · exact hclosed hmem
  · have hrun : (Runs.exec connectionSystem (fun _ _ => True) connectionInit
        [.listenCallback (.connected 5 []), .debugCallback (.command 6 1) []]).map
        (fun s => (s.closing, s.openFds, s.watchTable))
          = some (false, ∅, [.wakeupfd, .debug, .commands]) := by decide +kernel
    obtain ⟨s, hs, hval⟩ := Option.map_eq_some_iff.mp hrun
    obtain ⟨hclosing, hval⟩ := Prod.mk.inj hval
    obtain ⟨hopen, hwatch⟩ := Prod.mk.inj hval
    refine ⟨s, Runs.reaches_of_exec hs, hclosing, ?_, by rw [hwatch]; decide⟩
    rintro (⟨⟨hlisten, -⟩, -⟩ | ⟨⟨-, hmem, -⟩, -⟩)
    · rw [hwatch] at hlisten
      exact absurd hlisten (by decide)
    · rw [hopen] at hmem
      exact absurd hmem (Finset.notMem_empty _)
  · intro actions hactions
    have hrun : (Runs.exec connectionSystem (fun _ _ => True) connectionInit
        (actions ++ [.writeHeader 0 (some 0)])).map
        (fun s => (s.fdCommand, s.openFds, s.watchTable, s.log))
          = some (-1, ∅, [.wakeupfd, .debug, .listen],
            [.opened 5, .closed 5, .used 5 (.wrote []), .closed 5]) := by
      fin_cases hactions <;> decide +kernel
    obtain ⟨s, hs, hval⟩ := Option.map_eq_some_iff.mp hrun
    obtain ⟨hfd, hval⟩ := Prod.mk.inj hval
    obtain ⟨hopen, hval⟩ := Prod.mk.inj hval
    obtain ⟨hwatch, hlog⟩ := Prod.mk.inj hval
    refine ⟨s, hs, .inl ⟨⟨by rw [hwatch]; decide, hfd⟩, ?_⟩, ?_⟩
    · rintro ⟨-, hmem, -⟩
      rw [hopen] at hmem
      exact absurd hmem (Finset.notMem_empty _)
    · intro hgood
      have hmem := hgood [.opened 5] [] [.closed 5] 5 _ hlog (.inr ⟨_, rfl⟩)
      exact absurd hmem List.not_mem_nil

end CtpCommon.Ril
