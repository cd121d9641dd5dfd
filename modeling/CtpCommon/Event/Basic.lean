import CtpCommon.Lib.LinkedRing
import Mathlib.Data.Finset.Basic
import Mathlib.Data.List.FinRange
import Mathlib.Data.Int.Order.Basic

/-!
# Events

`ril_event.cpp`: a table of watched descriptors, a sorted list of timers and a list of the events
that are to be fired.  The two lists run through the same links, and are rings through the static
sentinels `timer_list` and `pending_list`.

* `Timeval`, `timercmp`, `timeradd`, `timersub` — the macros of `sys/time.h`;
* `EventState` — the memory of the events, `watch_table`, `readFds` and `nfds`;
* `addToList`, `removeFromList`, `removeWatch`, `processTimeouts`, `processReadReadies`,
  `calcNextTimeout`, `eventInit`, `eventSet`, `eventAdd`, `timerAdd`, `eventDel` — the functions.

A null link that is followed is `none`, and so is a walk that runs out of fuel.
-/

namespace CtpCommon.Event

open LinkedRing (Links)

/-! ### Times -/

structure Timeval where
  sec : ℤ
  usec : ℤ
  deriving DecidableEq, Repr

namespace Timeval

/-- A normalised time. -/
def Normal (t : Timeval) : Prop := 0 ≤ t.usec ∧ t.usec < 1000000

instance : DecidablePred Normal := fun _ => inferInstanceAs (Decidable (_ ∧ _))

/-- The time in microseconds. -/
def micros (t : Timeval) : ℤ := t.sec * 1000000 + t.usec

end Timeval

def timercmp (op : ℤ → ℤ → Bool) (a b : Timeval) : Bool :=
  if a.sec = b.sec then op a.usec b.usec else op a.sec b.sec

/-- `timercmp(a, b, <)`. -/
def timerLt : Timeval → Timeval → Bool := timercmp fun x y => x < y

/-- `timercmp(a, b, >)`. -/
def timerGt : Timeval → Timeval → Bool := timercmp fun x y => x > y

def timeradd (a b : Timeval) : Timeval :=
  if 1000000 ≤ a.usec + b.usec then ⟨a.sec + b.sec + 1, a.usec + b.usec - 1000000⟩
  else ⟨a.sec + b.sec, a.usec + b.usec⟩

def timersub (a b : Timeval) : Timeval :=
  if a.usec - b.usec < 0 then ⟨a.sec - b.sec - 1, a.usec - b.usec + 1000000⟩
  else ⟨a.sec - b.sec, a.usec - b.usec⟩

section Times

variable {a b : Timeval}

/-- On normalised times the comparisons are those of the microseconds. -/
theorem timerLt_iff (ha : a.Normal) (hb : b.Normal) : timerLt a b = true ↔ a.micros < b.micros := by
  obtain ⟨ha₁, ha₂⟩ := ha
  obtain ⟨hb₁, hb₂⟩ := hb
  unfold timerLt timercmp Timeval.micros
  by_cases hsec : a.sec = b.sec
  · rw [if_pos hsec, decide_eq_true_iff]
    omega
  · rw [if_neg hsec, decide_eq_true_iff]
    omega

theorem timerGt_iff (ha : a.Normal) (hb : b.Normal) : timerGt a b = true ↔ b.micros < a.micros := by
  obtain ⟨ha₁, ha₂⟩ := ha
  obtain ⟨hb₁, hb₂⟩ := hb
  unfold timerGt timercmp Timeval.micros
  by_cases hsec : a.sec = b.sec
  · rw [if_pos hsec, decide_eq_true_iff]
    omega
  · rw [if_neg hsec, decide_eq_true_iff]
    omega

theorem timeradd_normal (ha : a.Normal) (hb : b.Normal) : (timeradd a b).Normal := by
  obtain ⟨ha₁, ha₂⟩ := ha
  obtain ⟨hb₁, hb₂⟩ := hb
  unfold timeradd Timeval.Normal
  split
  · constructor
    · show 0 ≤ a.usec + b.usec - 1000000
      omega
    · show a.usec + b.usec - 1000000 < 1000000
      omega
  · constructor
    · show 0 ≤ a.usec + b.usec
      omega
    · show a.usec + b.usec < 1000000
      omega

theorem timersub_micros (a b : Timeval) : (timersub a b).micros = a.micros - b.micros := by
  unfold timersub Timeval.micros
  split
  · show (a.sec - b.sec - 1) * 1000000 + (a.usec - b.usec + 1000000) = _
    omega
  · show (a.sec - b.sec) * 1000000 + (a.usec - b.usec) = _
    omega

end Times

/-! ### The state -/

/-- The callbacks; only that of the wakeup pipe does anything to the loop itself. -/
inductive EventFunc where
  | processWakeupCallback
  | other
  deriving DecidableEq, Repr

/-- `ril_event`, the links apart. -/
structure RilEvent where
  fd : ℤ
  index : ℤ
  persist : Bool
  timeout : Timeval
  func : EventFunc
  deriving DecidableEq, Repr

/-- `MAX_FD_EVENTS`. -/
def maxFdEvents : ℕ := 8

/-- The addresses of the static sentinels. -/
def timerList : ℕ := 0
def pendingList : ℕ := 1

structure EventState where
  links : Links ℕ
  event : ℕ → RilEvent
  watchTable : Fin maxFdEvents → Option ℕ
  readFds : Finset ℤ
  nfds : ℤ

/-- The number of microseconds of an event's timeout. -/
def EventState.due (s : EventState) (ev : ℕ) : ℤ := (s.event ev).timeout.micros

/-- Is an event in the table? -/
def EventState.Watched (s : EventState) (ev : ℕ) : Prop := ∃ i, s.watchTable i = some ev

instance (s : EventState) (ev : ℕ) : Decidable (s.Watched ev) :=
  inferInstanceAs (Decidable (∃ i, s.watchTable i = some ev))

/-! ### Lists -/

/-- The memory `memset` leaves. -/
def zeroEvent : RilEvent := ⟨0, 0, false, ⟨0, 0⟩, .other⟩

def initList (list : ℕ) (s : EventState) : EventState :=
  { s with
    links := (s.links.setNext list (some list)).setPrev list (some list)
    event := Function.update s.event list { zeroEvent with fd := -1 } }

/-- Link `ev` in before `list`, which for a sentinel is at the end. -/
def addToList (ev list : ℕ) (s : EventState) : Option EventState :=
  (LinkedRing.insertBefore ev list s.links).map fun links => { s with links := links }

def removeFromList (ev : ℕ) (s : EventState) : Option EventState :=
  (LinkedRing.unlink ev s.links).map fun links => { s with links := links }

/-! ### The table -/

/-- One round of the search for the largest descriptor. -/
def largerFd (s : EventState) (n : ℤ) (i : Fin maxFdEvents) : ℤ :=
  match s.watchTable i with
  | some rev => if n < (s.event rev).fd then (s.event rev).fd else n
  | none => n

/-- The largest descriptor in the table, or `0`. -/
def largestFd (s : EventState) : ℤ := (List.finRange maxFdEvents).foldl (largerFd s) 0

def removeWatch (ev : ℕ) (index : Fin maxFdEvents) (s : EventState) : EventState :=
  let fd := (s.event ev).fd
  let s := { s with
    watchTable := Function.update s.watchTable index none
    event := Function.update s.event ev { s.event ev with index := -1 }
    readFds := s.readFds.erase fd }
  if fd + 1 = s.nfds then { s with nfds := largestFd s + 1 } else s

/-! ### Firing -/

/-- `while` a listed timer has expired, move it to the pending list. -/
def moveExpired (now : Timeval) : ℕ → ℕ → EventState → Option EventState
  | 0, _, _ => none
  | fuel + 1, tev, s =>
      if tev ≠ timerList ∧ timerGt now (s.event tev).timeout then do
        let next ← s.links.next tev
        let s ← removeFromList tev s
        let s ← addToList tev pendingList s
        moveExpired now fuel next s
      else some s

def processTimeouts (fuel : ℕ) (now : Timeval) (s : EventState) : Option EventState := do
  let tev ← s.links.next timerList
  moveExpired now fuel tev s

/-- The slots from `i` on, while ready descriptors are left. -/
def addReadies (rfds : Finset ℤ) : List (Fin maxFdEvents) → ℕ → EventState → Option EventState
  | [], _, s => some s
  | i :: slots, n, s =>
      if n = 0 then some s
      else
        match s.watchTable i with
        | none => addReadies rfds slots n s
        | some rev =>
            if (s.event rev).fd ∈ rfds then do
              let s ← addToList rev pendingList s
              let s := if (s.event rev).persist then s else removeWatch rev i s
              addReadies rfds slots (n - 1) s
            else addReadies rfds slots n s

def processReadReadies (rfds : Finset ℤ) (n : ℕ) (s : EventState) : Option EventState :=
  addReadies rfds (List.finRange maxFdEvents) n s

/-- The timeout of `select`; no timeout is `none` inside. -/
def calcNextTimeout (now : Timeval) (s : EventState) : Option (Option Timeval) := do
  let tev ← s.links.next timerList
  if tev = timerList then return none
  else if timerGt (s.event tev).timeout now then return some (timersub (s.event tev).timeout now)
  else return some ⟨0, 0⟩

/-! ### The interface -/

/-- `ril_event_init`, on memory with no links. -/
def eventInit : EventState :=
  initList pendingList (initList timerList
    { links := ⟨fun _ => none, fun _ => none⟩
      event := fun _ => zeroEvent
      watchTable := fun _ => none
      readFds := ∅
      nfds := 0 })

def eventSet (ev : ℕ) (fd : ℤ) (persist : Bool) (func : EventFunc) (s : EventState) : EventState :=
  { s with
    links := (s.links.setNext ev none).setPrev ev none
    event := Function.update s.event ev
      { zeroEvent with fd := fd, index := -1, persist := persist, func := func } }

/-- The first free slot. -/
def freeSlot (s : EventState) : Option (Fin maxFdEvents) :=
  (List.finRange maxFdEvents).find? fun i => (s.watchTable i).isNone

def eventAdd (ev : ℕ) (s : EventState) : EventState :=
  match freeSlot s with
  | none => s
  | some i =>
      { s with
        watchTable := Function.update s.watchTable i (some ev)
        event := Function.update s.event ev { s.event ev with index := i }
        readFds := insert (s.event ev).fd s.readFds
        nfds := if s.nfds ≤ (s.event ev).fd then (s.event ev).fd + 1 else s.nfds }

/-- The first listed event whose timeout is not before the new one, or the sentinel. -/
def findPlace (s : EventState) (timeout : Timeval) : ℕ → ℕ → Option ℕ
  | 0, _ => none
  | fuel + 1, list =>
      -- the sentinel's own timeout takes part in the comparison
      if timerLt (s.event list).timeout timeout ∧ list ≠ timerList then do
        let next ← s.links.next list
        findPlace s timeout fuel next
      else some list

def timerAdd (fuel : ℕ) (ev : ℕ) (tv : Option Timeval) (now : Timeval) (s : EventState) :
    Option EventState :=
  match tv with
  | none => some s
  | some tv => do
      let list ← s.links.next timerList
      let timeout := timeradd now tv
      let s := { s with
        event := Function.update s.event ev { s.event ev with fd := -1, timeout := timeout } }
      let list ← findPlace s timeout fuel list
      addToList ev list s

def eventDel (ev : ℕ) (s : EventState) : EventState :=
  if h : 0 ≤ (s.event ev).index ∧ (s.event ev).index < maxFdEvents then
    removeWatch ev ⟨(s.event ev).index.toNat, by omega⟩ s
  else s

end CtpCommon.Event
