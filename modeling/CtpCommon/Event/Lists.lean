import CtpCommon.Event.Basic
import Mathlib.Data.List.Sort

/-!
# The timers and the pending events

What the functions of `ril_event.cpp` do to the two lists, seen as lists of addresses.

* `Lists s ts ps` — `timer_list` is the ring of `ts`, `pending_list` that of `ps`, and no other
  event is linked;
* `Lists.timerAdd` — **PROVED**: `ril_timer_add` is an ordered insertion by timeout;
* `Lists.processTimeouts` — **PROVED**: `processTimeouts` moves the leading timers that have
  expired to the end of the pending list;
* `Lists.calcNextTimeout` — **PROVED**: no timeout without a timer, else the time to the first.

With fuel for one more step than there are timers no walk runs out.
-/

namespace CtpCommon.Event

open LinkedRing

/-- The two rings of `s`. -/
def Lists (s : EventState) (ts ps : List ℕ) : Prop :=
  Rings s.links timerList ts pendingList ps

variable {s : EventState} {ts ps : List ℕ} {e : ℕ}

/-- An event that is on no list. -/
def EventState.Unlinked (s : EventState) (ev : ℕ) : Prop := s.links.next ev = none

instance (s : EventState) (ev : ℕ) : Decidable (s.Unlinked ev) :=
  inferInstanceAs (Decidable (s.links.next ev = none))

theorem Lists.notMem_timers (h : Lists s ts ps) (he : s.Unlinked e) : e ∉ ts :=
  fun hmem => (h.notMem he).1 (List.mem_cons_of_mem _ hmem)

theorem Lists.notMem_pending (h : Lists s ts ps) (he : s.Unlinked e) : e ∉ ps :=
  fun hmem => (h.notMem he).2 (List.mem_cons_of_mem _ hmem)

theorem Lists.congr {s' : EventState} (h : Lists s ts ps) (hlinks : s'.links = s.links) :
    Lists s' ts ps := by
  unfold Lists
  rw [hlinks]
  exact h

/-- After `ril_event_init` both lists are empty. -/
theorem lists_eventInit : Lists eventInit [] [] := by
  have hnext : ∀ q, eventInit.links.next q
      = if q = pendingList then some pendingList
        else if q = timerList then some timerList else none := by
    intro q
    simp only [eventInit, initList, Links.setPrev_next, Links.setNext_next]
  refine ⟨ring_nil rfl rfl, ring_nil rfl rfl, ?_, ?_⟩
  · intro q hq hq'
    have h := (List.mem_singleton.mp hq).symm.trans (List.mem_singleton.mp hq')
    exact absurd h (by decide)
  · intro q hq hq'
    rw [hnext, if_neg fun h => hq' (List.mem_singleton.mpr h),
      if_neg fun h => hq (List.mem_singleton.mpr h)]

/-! ### Edits -/

theorem Lists.enqueue (h : Lists s ts ps) (he : s.Unlinked e) :
    ∃ links, addToList e pendingList s = some { s with links := links } ∧
      Lists { s with links := links } ts (ps ++ [e]) := by
  have hswap : Rings s.links pendingList (ps ++ []) timerList ts := by
    rw [List.append_nil]
    exact h.swap
  obtain ⟨links, hrun, hrings⟩ := hswap.insertBefore he
  refine ⟨links, ?_, hrings.swap⟩
  unfold addToList
  rw [show LinkedRing.insertBefore e pendingList s.links = some links from hrun]
  rfl

theorem Lists.insertTimer {xs ys : List ℕ} (h : Lists s (xs ++ ys) ps) (he : s.Unlinked e) :
    ∃ links, addToList e (ys.headD timerList) s = some { s with links := links } ∧
      Lists { s with links := links } (xs ++ e :: ys) ps := by
  obtain ⟨links, hrun, hrings⟩ := Rings.insertBefore h he
  refine ⟨links, ?_, hrings⟩
  unfold addToList
  rw [hrun]
  rfl

theorem Lists.removeTimer (h : Lists s (e :: ts) ps) :
    ∃ links, removeFromList e s = some { s with links := links } ∧
      Lists { s with links := links } ts ps ∧ links.next e = none := by
  obtain ⟨links, hrun, hrings, hnone⟩ :=
    Rings.unlink (show Rings s.links timerList ([] ++ e :: ts) pendingList ps from h)
  refine ⟨links, ?_, hrings, hnone⟩
  unfold removeFromList
  rw [hrun]
  rfl

theorem Lists.removePending (h : Lists s ts (e :: ps)) :
    ∃ links, removeFromList e s = some { s with links := links } ∧
      Lists { s with links := links } ts ps ∧ links.next e = none := by
  obtain ⟨links, hrun, hrings, hnone⟩ :=
    Rings.unlink (show Rings s.links pendingList ([] ++ e :: ps) timerList ts from h.swap)
  refine ⟨links, ?_, hrings.swap, hnone⟩
  unfold removeFromList
  rw [hrun]
  rfl

/-! ### Adding a timer -/

/-- The order of the timers: by timeout. -/
def NotAfter (s : EventState) : ℕ → ℕ → Prop := Order.Preimage s.due (· ≤ ·)

instance (s : EventState) : DecidableRel (NotAfter s) :=
  fun a b => inferInstanceAs (Decidable (s.due a ≤ s.due b))

instance (s : EventState) : Std.Total (NotAfter s) := ⟨fun a b => le_total (s.due a) (s.due b)⟩

instance (s : EventState) : IsTrans ℕ (NotAfter s) := ⟨fun _ _ _ h₁ h₂ => le_trans h₁ h₂⟩

/-- All times are normalised, also those of the sentinels. -/
def NormalTimes (s : EventState) : Prop := ∀ ev, (s.event ev).timeout.Normal

/-- The walk stops at the first timer that is not before the new one. -/
theorem Lists.findPlace {timeout : Timeval} (hnormal : NormalTimes s) (ht : timeout.Normal)
    {xs ys : List ℕ} (h : Lists s (xs ++ ys) ps) {fuel : ℕ} (hfuel : ys.length < fuel) :
    findPlace s timeout fuel (ys.headD timerList)
      = some ((ys.dropWhile fun y => ¬ timeout.micros ≤ s.due y).headD timerList) := by
  induction ys generalizing xs fuel with
  | nil =>
    cases fuel with
    | zero => exact absurd hfuel (Nat.not_lt_zero _)
    | succ fuel =>
      show Event.findPlace s timeout (fuel + 1) timerList = some timerList
      exact if_neg fun hcond => hcond.2 rfl
  | cons y ys ih =>
    cases fuel with
    | zero => exact absurd hfuel (Nat.not_lt_zero _)
    | succ fuel =>
      have hne : y ≠ timerList := by
        rintro rfl
        exact (List.nodup_cons.mp h.left.nodup).1
          (List.mem_append_right _ (List.mem_cons_self ..))
      have hlt : timerLt (s.event y).timeout timeout = true ↔ ¬ timeout.micros ≤ s.due y := by
        rw [timerLt_iff (hnormal y) ht, not_le]
        rfl
      by_cases hbefore : timeout.micros ≤ s.due y
      · rw [List.dropWhile_cons_of_neg (by simpa using hbefore)]
        show Event.findPlace s timeout (fuel + 1) y = some y
        exact if_neg fun hcond => hlt.mp hcond.1 hbefore
      · rw [List.dropWhile_cons_of_pos (by simpa using hbefore)]
        have hstep : Event.findPlace s timeout (fuel + 1) y
            = (s.links.next y).bind (Event.findPlace s timeout fuel) :=
          if_pos ⟨hlt.mpr hbefore, hne⟩
        show Event.findPlace s timeout (fuel + 1) y = _
        rw [hstep, h.left.next_of_append]
        have hsplit : Lists s ((xs ++ [y]) ++ ys) ps := by
          rw [List.append_assoc]
          exact h
        exact ih hsplit (Nat.lt_of_succ_lt_succ hfuel)

/-- The event of a new timer. -/
def setTimeout (ev : ℕ) (timeout : Timeval) (s : EventState) : EventState :=
  { s with event := Function.update s.event ev { s.event ev with fd := -1, timeout := timeout } }

/-- **`ril_timer_add` is an ordered insertion**; nothing but the links and the new event
changes. -/
theorem Lists.timerAdd (h : Lists s ts ps) (he : s.Unlinked e) {tv now : Timeval}
    (hnormal : NormalTimes s) (hnow : now.Normal) (htv : tv.Normal) {fuel : ℕ}
    (hfuel : ts.length < fuel) :
    ∃ links, Event.timerAdd fuel e (some tv) now s
        = some { setTimeout e (timeradd now tv) s with links := links } ∧
      Lists { setTimeout e (timeradd now tv) s with links := links }
        (ts.orderedInsert (NotAfter (setTimeout e (timeradd now tv) s)) e) ps ∧
      NormalTimes (setTimeout e (timeradd now tv) s) := by
  have ht := timeradd_normal hnow htv
  generalize hT : timeradd now tv = T at *
  have hnormal' : NormalTimes (setTimeout e T s) := by
    intro ev
    by_cases hev : ev = e
    · subst hev
      simpa [setTimeout] using ht
    · simpa [setTimeout, hev] using hnormal ev
  have hdue : (setTimeout e T s).due e = T.micros := by simp [setTimeout, EventState.due]
  have hlists : Lists (setTimeout e T s) ts ps := h.congr rfl
  have hplace := Lists.findPlace hnormal' ht (show Lists _ ([] ++ ts) ps from hlists) hfuel
  rw [List.orderedInsert_eq_take_drop]
  have hsplit := List.takeWhile_append_dropWhile
    (p := fun b => ¬ NotAfter (setTimeout e T s) e b) (l := ts)
  have hlists' := hlists
  rw [← hsplit] at hlists'
  obtain ⟨links, hadd, hins⟩ := hlists'.insertTimer (e := e) he
  refine ⟨links, ?_, hins, hnormal'⟩
  show ((s.links.next timerList).bind fun list =>
    (Event.findPlace (setTimeout e (timeradd now tv) s) (timeradd now tv) fuel list).bind
      fun list => addToList e list (setTimeout e (timeradd now tv) s)) = _
  rw [h.left.next_head, hT]
  show (Event.findPlace (setTimeout e T s) T fuel (ts.headD timerList)).bind
    (fun list => addToList e list (setTimeout e T s)) = _
  rw [hplace, Option.bind_some]
  have hpred : (fun y => decide ¬ T.micros ≤ (setTimeout e T s).due y)
      = fun b => decide ¬ NotAfter (setTimeout e T s) e b := by
    funext y
    refine decide_eq_decide.mpr (not_congr ?_)
    show T.micros ≤ _ ↔ (setTimeout e T s).due e ≤ _
    rw [hdue]
  rw [hpred]
  exact hadd

/-! ### Expired timers -/

/-- Has the timer of an event expired? -/
def Expired (s : EventState) (now : Timeval) (ev : ℕ) : Prop := s.due ev < now.micros

instance (s : EventState) (now : Timeval) : DecidablePred (Expired s now) :=
  fun ev => inferInstanceAs (Decidable (s.due ev < now.micros))

/-- The walk over the expired timers. -/
theorem Lists.moveExpired (h : Lists s ts ps) (hnormal : NormalTimes s) {now : Timeval}
    (hnow : now.Normal) {fuel : ℕ} (hfuel : ts.length < fuel) :
    ∃ links, moveExpired now fuel (ts.headD timerList) s = some { s with links := links } ∧
      Lists { s with links := links } (ts.dropWhile (Expired s now))
        (ps ++ ts.takeWhile (Expired s now)) := by
  induction ts generalizing s ps fuel with
  | nil =>
    cases fuel with
    | zero => exact absurd hfuel (Nat.not_lt_zero _)
    | succ fuel =>
      refine ⟨s.links, ?_, ?_⟩
      · show Event.moveExpired now (fuel + 1) timerList s = some s
        exact if_neg fun hcond => hcond.1 rfl
      · rw [List.takeWhile_nil, List.append_nil]
        exact h
  | cons t ts ih =>
    cases fuel with
    | zero => exact absurd hfuel (Nat.not_lt_zero _)
    | succ fuel =>
      have hne : t ≠ timerList := by
        rintro rfl
        exact (List.nodup_cons.mp h.left.nodup).1 (List.mem_cons_self ..)
      have hgt : timerGt now (s.event t).timeout = true ↔ Expired s now t :=
        timerGt_iff hnow (hnormal t)
      show ∃ links, Event.moveExpired now (fuel + 1) t s = some { s with links := links } ∧ _
      by_cases hexp : Expired s now t
      · obtain ⟨l₁, hremove, h₁, hnone⟩ := h.removeTimer
        obtain ⟨l₂, hadd, h₂⟩ := h₁.enqueue (e := t) hnone
        have hnext : s.links.next t = some (ts.headD timerList) :=
          Ring.next_of_cons h.left
        obtain ⟨l₃, hrest, h₃⟩ := ih (s := { s with links := l₂ }) h₂ hnormal
          (Nat.lt_of_succ_lt_succ hfuel)
        refine ⟨l₃, ?_, ?_⟩
        · have hstep : Event.moveExpired now (fuel + 1) t s
              = (s.links.next t).bind fun next => (removeFromList t s).bind fun s =>
                  (addToList t pendingList s).bind fun s => Event.moveExpired now fuel next s :=
            if_pos ⟨hne, hgt.mpr hexp⟩
          rw [hstep, hnext, Option.bind_some, hremove, Option.bind_some, hadd, Option.bind_some]
          exact hrest
        · rw [List.dropWhile_cons_of_pos (by simpa using hexp),
            List.takeWhile_cons_of_pos (by simpa using hexp)]
          have happ : ps ++ t :: ts.takeWhile (Expired s now)
              = (ps ++ [t]) ++ ts.takeWhile (Expired s now) := by simp
          rw [happ]
          exact h₃
      · refine ⟨s.links, ?_, ?_⟩
        · exact if_neg fun hcond => hexp (hgt.mp hcond.2)
        · rw [List.dropWhile_cons_of_neg (by simpa using hexp),
            List.takeWhile_cons_of_neg (by simpa using hexp), List.append_nil]
          exact h

/-- **`processTimeouts` moves the leading expired timers** to the end of the pending list. -/
theorem Lists.processTimeouts (h : Lists s ts ps) (hnormal : NormalTimes s) {now : Timeval}
    (hnow : now.Normal) {fuel : ℕ} (hfuel : ts.length < fuel) :
    ∃ links, Event.processTimeouts fuel now s = some { s with links := links } ∧
      Lists { s with links := links } (ts.dropWhile (Expired s now))
        (ps ++ ts.takeWhile (Expired s now)) := by
  obtain ⟨links, hrun, hlists⟩ := h.moveExpired hnormal hnow hfuel
  refine ⟨links, ?_, hlists⟩
  unfold Event.processTimeouts
  rw [h.left.next_head]
  exact hrun

/-- On sorted timers the leading expired ones are all of them. -/
theorem expired_iff_mem_takeWhile (hsorted : ts.Pairwise (NotAfter s)) {now : Timeval} {x : ℕ}
    (hx : x ∈ ts) : Expired s now x ↔ x ∈ ts.takeWhile (Expired s now) := by
  constructor
  · intro hexp
    induction ts with
    | nil => exact absurd hx List.not_mem_nil
    | cons t ts ih =>
      obtain ⟨ht, hsorted'⟩ := List.pairwise_cons.mp hsorted
      rcases List.mem_cons.mp hx with rfl | hx
      · rw [List.takeWhile_cons_of_pos (by simpa using hexp)]
        exact List.mem_cons_self ..
      · have hle : s.due t ≤ s.due x := ht x hx
        have hlt : s.due x < now.micros := hexp
        have hexpt : Expired s now t := lt_of_le_of_lt hle hlt
        rw [List.takeWhile_cons_of_pos (by simpa using hexpt)]
        exact List.mem_cons_of_mem _ (ih hsorted' hx)
  · intro hmem
    have hall := List.all_takeWhile (p := fun b => decide (Expired s now b)) (l := ts)
    simpa using List.all_eq_true.mp hall x hmem

/-- **The timeout of `select`**: none without a timer, else the time until the first. -/
theorem Lists.calcNextTimeout (h : Lists s ts ps) (hnormal : NormalTimes s) {now : Timeval}
    (hnow : now.Normal) :
    ∃ ptv, Event.calcNextTimeout now s = some ptv ∧ (ptv = none ↔ ts = []) ∧
      ∀ tv, ptv = some tv → ∀ t, ts.head? = some t →
        tv.micros = max 0 (s.due t - now.micros) := by
  unfold Event.calcNextTimeout
  rw [h.left.next_head]
  cases ts with
  | nil =>
    refine ⟨none, rfl, by simp, ?_⟩
    intro tv htv
    exact absurd htv (by simp)
  | cons t ts =>
    have hne : t ≠ timerList := by
      rintro rfl
      exact (List.nodup_cons.mp h.left.nodup).1 (List.mem_cons_self ..)
    have hgt := timerGt_iff (hnormal t) hnow
    have hhead : ∀ {u}, (t :: ts).head? = some u → u = t := by
      intro u hu
      exact (Option.some.inj hu).symm
    by_cases hlater : timerGt (s.event t).timeout now = true
    · refine ⟨some (timersub (s.event t).timeout now), ?_, by simp, ?_⟩
      · show (if t = timerList then _ else if _ then _ else _) = _
        exact (if_neg hne).trans (if_pos hlater)
      · intro tv htv u hu
        obtain rfl := Option.some.inj htv
        obtain rfl := hhead hu
        rw [timersub_micros]
        have hpos : now.micros < (s.event u).timeout.micros := hgt.mp hlater
        exact (max_eq_right (by omega)).symm
    · refine ⟨some ⟨0, 0⟩, ?_, by simp, ?_⟩
      · show (if t = timerList then _ else if _ then _ else _) = _
        exact (if_neg hne).trans (if_neg hlater)
      · intro tv htv u hu
        obtain rfl := Option.some.inj htv
        obtain rfl := hhead hu
        have hle : (s.event u).timeout.micros ≤ now.micros := not_lt.mp fun h => hlater (hgt.mpr h)
        show (0 : ℤ) = max 0 ((s.event u).timeout.micros - now.micros)
        exact (max_eq_left (by omega)).symm

end CtpCommon.Event
