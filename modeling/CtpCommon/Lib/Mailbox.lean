import Mathlib.Data.List.Basic
import Mathlib.Data.List.Nodup

/-!
# A mailbox of one message, for clients that come and go

Messages are sent directly while a client is connected.  One that cannot be sent is kept, in the
place of an older one, and handed over when the next client is greeted.  Between a message's failed
send and the keeping of its copy, and between a client's arrival and its greeting, other steps may
come.

* `Mailbox` — the kept message, the message whose copy is still to be kept, the counters of
  messages and clients, and the logs of what was received, could not be sent, and was lost;
* `Mailbox.accept`, `send`, `keep`, `greet` — the operations; `ok` says whether a send succeeds;
* `Mailbox.Delivery` — what the mailbox is for: each client receives messages in order, nothing
  is lost, and what could not be sent goes to the next client once, unless a newer one takes its
  place;
* `MailInv` and its step lemmas — **PROVED**: kept by the operations when no message is sent
  directly past a kept one, no client is greeted before the copy is kept, and the kept message is
  handed over successfully;
* `MailInv.delivery` — **PROVED**: the invariant gives delivery.

Nothing here is specific to a program.
-/

namespace CtpCommon

/-- A message, with its number and the number of clients greeted when it was sent. -/
structure Item (α : Type) where
  serial : ℕ
  greeted : ℕ
  payload : α
  deriving DecidableEq

structure Mailbox (α : Type) where
  client : ℕ
  greeted : ℕ
  count : ℕ
  unkept : Option (Item α)
  stored : Option (Item α)
  received : List (ℕ × Item α)
  failed : List (Item α)
  lost : List (Item α)

namespace Mailbox

variable {α : Type}

def empty : Mailbox α := ⟨0, 0, 0, none, none, [], [], []⟩

/-! ### The operations -/

/-- A client arrives. -/
def accept (m : Mailbox α) : Mailbox α := { m with client := m.client + 1 }

/-- The next message is sent to the current client, or cannot be. -/
def send (m : Mailbox α) (ok : Bool) (payload : α) : Mailbox α :=
  let i : Item α := ⟨m.count, m.greeted, payload⟩
  if ok then { m with count := m.count + 1, received := m.received ++ [(m.client, i)] }
  else { m with count := m.count + 1, unkept := some i, failed := m.failed ++ [i] }

/-- The copy of a message that could not be sent takes the place of the kept one. -/
def keep (m : Mailbox α) : Mailbox α :=
  match m.unkept with
  | none => m
  | some i => { m with unkept := none, stored := some i }

/-- The current client is greeted: the kept message is handed over, and given up either way. -/
def greet (m : Mailbox α) (ok : Bool) : Mailbox α :=
  { m with
    greeted := m.client
    stored := none
    received := m.received ++ if ok then m.stored.toList.map fun i => (m.client, i) else []
    lost := m.lost ++ if ok then [] else m.stored.toList }

@[simp] theorem keep_client (m : Mailbox α) : m.keep.client = m.client := by
  unfold keep
  split <;> rfl

@[simp] theorem keep_greeted (m : Mailbox α) : m.keep.greeted = m.greeted := by
  unfold keep
  split <;> rfl

@[simp] theorem keep_unkept (m : Mailbox α) : m.keep.unkept = none := by
  unfold keep
  split
  · assumption
  · rfl

@[simp] theorem keep_stored (m : Mailbox α) : m.keep.stored = m.unkept.or m.stored := by
  unfold keep
  split
  · rename_i hnone
    rw [hnone]
    rfl
  · rename_i hsome
    rw [hsome]
    rfl

/-! ### What the mailbox is for -/

/-- Of two messages of one client, the later is the newer. -/
def InOrder (r r' : ℕ × Item α) : Prop := r.1 = r'.1 → r.2.serial < r'.2.serial

/-- A message that could not be sent waits for the next client, has been replaced by a newer one
before that client came, or has reached it. -/
def Handled (m : Mailbox α) (i : Item α) : Prop :=
  ((m.stored = some i ∨ m.unkept = some i) ∧ i.greeted = m.greeted) ∨
    (∃ j ∈ m.failed, i.serial < j.serial ∧ j.greeted = i.greeted) ∨
    (i.greeted + 1, i) ∈ m.received

structure Delivery (m : Mailbox α) : Prop where
  ordered : m.received.Pairwise InOrder
  once : (m.received.map fun r => r.2.serial).Nodup
  kept : m.lost = []
  delivered : ∀ i ∈ m.failed, m.Handled i

end Mailbox

open Mailbox

/-! ### The invariant -/

variable {α : Type}

/-- The kept message has not been received, and is newer than what a client that has not been
greeted has received. -/
structure StoredOk (m : Mailbox α) (i : Item α) : Prop where
  greeted : i.greeted = m.greeted
  lt : i.serial < m.count
  fresh : ∀ r ∈ m.received, r.2.serial ≠ i.serial
  newer : m.greeted < m.client → ∀ r ∈ m.received, r.1 = m.client → r.2.serial < i.serial

/-- The message whose copy is still to be kept is the last one. -/
structure UnkeptOk (m : Mailbox α) (i : Item α) : Prop where
  failed : i ∈ m.failed
  greeted : i.greeted = m.greeted
  last : i.serial + 1 = m.count
  newest : ∀ r ∈ m.received, r.2.serial < i.serial

structure MailInv (m : Mailbox α) : Prop extends Delivery m where
  greeted_le : m.greeted ≤ m.client
  client_le : m.client ≤ m.greeted + 1
  received_lt : ∀ r ∈ m.received, r.2.serial < m.count ∧ r.1 ≤ m.client
  stored : ∀ i, m.stored = some i → StoredOk m i
  unkept : ∀ i, m.unkept = some i → UnkeptOk m i
  older : ∀ i j, m.stored = some i → m.unkept = some j → i.serial < j.serial

theorem MailInv.delivery {m : Mailbox α} (h : MailInv m) : Delivery m := h.toDelivery

theorem mailInv_empty : MailInv (empty : Mailbox α) := by
  refine ⟨⟨List.Pairwise.nil, List.nodup_nil, rfl, ?_⟩, Nat.le_refl _, Nat.zero_le _, ?_, ?_, ?_,
    ?_⟩
  · intro i hi
    exact absurd hi List.not_mem_nil
  · intro r hr
    exact absurd hr List.not_mem_nil
  · intro i hi
    exact absurd hi (by simp [Mailbox.empty])
  · intro i hi
    exact absurd hi (by simp [Mailbox.empty])
  · intro i j hi
    exact absurd hi (by simp [Mailbox.empty])

/-- The next reception is in order when its message is newer than those of its client. -/
theorem pairwise_inOrder_snoc {rs : List (ℕ × Item α)} {c : ℕ} {i : Item α}
    (h : rs.Pairwise InOrder) (hnew : ∀ r ∈ rs, r.1 = c → r.2.serial < i.serial) :
    (rs ++ [(c, i)]).Pairwise InOrder := by
  refine List.pairwise_append.mpr ⟨h, List.pairwise_singleton _ _, ?_⟩
  intro r hr r' hr' hc
  obtain rfl := List.mem_singleton.mp hr'
  exact hnew r hr hc

theorem nodup_serial_snoc {rs : List (ℕ × Item α)} {c : ℕ} {i : Item α}
    (h : (rs.map fun r => r.2.serial).Nodup) (hnew : ∀ r ∈ rs, r.2.serial ≠ i.serial) :
    ((rs ++ [(c, i)]).map fun r => r.2.serial).Nodup := by
  rw [List.map_append]
  refine List.nodup_append.mpr ⟨h, List.nodup_singleton _, ?_⟩
  intro a ha b hb hab
  obtain ⟨r, hr, rfl⟩ := List.mem_map.mp ha
  obtain rfl := List.mem_singleton.mp hb
  exact hnew r hr hab

/-! ### The steps -/

/-- A client arrives once the one before it has been greeted. -/
theorem MailInv.accept {m : Mailbox α} (h : MailInv m) (hgreeted : m.greeted = m.client) :
    MailInv m.accept := by
  refine ⟨⟨h.ordered, h.once, h.kept, h.delivered⟩, ?_, ?_, ?_, ?_, ?_, h.older⟩
  · exact Nat.le_succ_of_le h.greeted_le
  · show m.client + 1 ≤ m.greeted + 1
    omega
  · intro r hr
    exact ⟨(h.received_lt r hr).1, Nat.le_succ_of_le (h.received_lt r hr).2⟩
  · intro i hi
    have hs := h.stored i hi
    refine ⟨hs.greeted, hs.lt, hs.fresh, fun _ r hr hc => ?_⟩
    have hle := (h.received_lt r hr).2
    have hc' : r.1 = m.client + 1 := hc
    omega
  · intro i hi
    have hu := h.unkept i hi
    exact ⟨hu.failed, hu.greeted, hu.last, hu.newest⟩

/-- A message sent directly, with nothing kept for a client that has not been greeted. -/
theorem MailInv.send_ok {m : Mailbox α} (h : MailInv m) (hunkept : m.unkept = none)
    (hstored : m.greeted < m.client → m.stored = none) (payload : α) :
    MailInv (m.send true payload) := by
  have hnew : ∀ r ∈ m.received, r.2.serial < m.count := fun r hr => (h.received_lt r hr).1
  have hmem : ∀ r ∈ (m.send true payload).received, r ∈ m.received ∨
      r = (m.client, ⟨m.count, m.greeted, payload⟩) := by
    intro r hr
    rcases List.mem_append.mp hr with hold | hnew
    · exact .inl hold
    · exact .inr (List.mem_singleton.mp hnew)
  refine ⟨⟨?_, ?_, h.kept, ?_⟩, h.greeted_le, h.client_le, ?_, ?_, ?_, h.older⟩
  · exact pairwise_inOrder_snoc h.ordered fun r hr _ => hnew r hr
  · exact nodup_serial_snoc h.once fun r hr => Nat.ne_of_lt (hnew r hr)
  · intro i hi
    exact (h.delivered i hi).imp_right (Or.imp_right fun hr => List.mem_append_left _ hr)
  · intro r hr
    show r.2.serial < m.count + 1 ∧ r.1 ≤ m.client
    rcases hmem r hr with hold | rfl
    · exact ⟨Nat.lt_succ_of_lt (hnew r hold), (h.received_lt r hold).2⟩
    · exact ⟨Nat.lt_succ_self _, Nat.le_refl _⟩
  · intro i hi
    have hs := h.stored i hi
    refine ⟨hs.greeted, Nat.lt_succ_of_lt hs.lt, ?_, ?_⟩
    · intro r hr
      rcases hmem r hr with hold | rfl
      · exact hs.fresh r hold
      · exact Nat.ne_of_gt hs.lt
    · intro hlt
      rw [show m.stored = some i from hi] at hstored
      exact absurd (hstored hlt) (by simp)
  · intro i hi
    rw [show m.unkept = some i from hi] at hunkept
    exact absurd hunkept (by simp)

/-- A message that cannot be sent. -/
theorem MailInv.send_fail {m : Mailbox α} (h : MailInv m) (payload : α) :
    MailInv (m.send false payload) := by
  have hfailed : ∀ i ∈ m.failed, i ∈ (m.send false payload).failed :=
    fun i hi => List.mem_append_left _ hi
  refine ⟨⟨h.ordered, h.once, h.kept, ?_⟩, h.greeted_le, h.client_le, ?_, ?_, ?_, ?_⟩
  · intro i hi
    rcases List.mem_append.mp hi with hold | hnew
    · rcases h.delivered i hold with ⟨hstored | hunkept, hgreeted⟩ | ⟨j, hj, hij⟩ | hr
      · exact .inl ⟨.inl hstored, hgreeted⟩
      · -- its copy was never kept: the new message is the newer one
        have hu := h.unkept i hunkept
        refine .inr (.inl ⟨⟨m.count, m.greeted, payload⟩,
          List.mem_append_right _ (List.mem_singleton_self _), ?_, hgreeted.symm⟩)
        show i.serial < m.count
        have := hu.last
        omega
      · exact .inr (.inl ⟨j, hfailed j hj, hij⟩)
      · exact .inr (.inr hr)
    · obtain rfl := List.mem_singleton.mp hnew
      exact .inl ⟨.inr rfl, rfl⟩
  · intro r hr
    exact ⟨Nat.lt_succ_of_lt (h.received_lt r hr).1, (h.received_lt r hr).2⟩
  · intro i hi
    have hs := h.stored i hi
    exact ⟨hs.greeted, Nat.lt_succ_of_lt hs.lt, hs.fresh, hs.newer⟩
  · intro i hi
    obtain rfl := Option.some.inj hi
    exact ⟨List.mem_append_right _ (List.mem_singleton_self _), rfl, rfl,
      fun r hr => (h.received_lt r hr).1⟩
  · intro i j hi hj
    obtain rfl := Option.some.inj hj
    exact (h.stored i hi).lt

/-- The copy takes the place of an older one. -/
theorem MailInv.keep {m : Mailbox α} (h : MailInv m) : MailInv m.keep := by
  unfold Mailbox.keep
  rcases hunkept : m.unkept with _ | i
  · exact h
  have hu := h.unkept i hunkept
  refine ⟨⟨h.ordered, h.once, h.kept, ?_⟩, h.greeted_le, h.client_le, h.received_lt, ?_, ?_, ?_⟩
  · intro j hj
    rcases h.delivered j hj with ⟨hstored | hkeep, hgreeted⟩ | hrest
    · exact .inr (.inl ⟨i, hu.failed, h.older j i hstored hunkept, hu.greeted.trans hgreeted.symm⟩)
    · obtain rfl := Option.some.inj (hunkept.symm.trans hkeep)
      exact .inl ⟨.inl rfl, hgreeted⟩
    · exact .inr hrest
  · intro j hj
    obtain rfl := Option.some.inj hj
    refine ⟨hu.greeted, ?_, fun r hr => Nat.ne_of_lt (hu.newest r hr), fun _ r hr _ =>
      hu.newest r hr⟩
    show i.serial < m.count
    have := hu.last
    omega
  · intro j hj
    exact absurd hj (by simp)
  · intro j k _ hk
    exact absurd hk (by simp)

/-- **The greeting** hands the kept message over. -/
theorem MailInv.greet {m : Mailbox α} {ok : Bool} (h : MailInv m) (hlt : m.greeted < m.client)
    (hunkept : m.unkept = none) (hok : m.stored ≠ none → ok = true) : MailInv (m.greet ok) := by
  have hlast : m.client = m.greeted + 1 := Nat.le_antisymm h.client_le hlt
  rcases hstored : m.stored with _ | i
  · have heq : m.greet ok = { m with greeted := m.client } := by
      unfold Mailbox.greet
      rw [hstored]
      cases ok <;> simp
    rw [heq]
    refine ⟨⟨h.ordered, h.once, h.kept, ?_⟩, Nat.le_refl _, Nat.le_succ _, h.received_lt, ?_, ?_,
      h.older⟩
    · intro i hi
      rcases h.delivered i hi with ⟨hs | hu, -⟩ | hrest
      · exact absurd (hstored.symm.trans hs) (by simp)
      · exact absurd (hunkept.symm.trans hu) (by simp)
      · exact .inr hrest
    · intro i hi
      exact absurd (hstored.symm.trans hi) (by simp)
    · intro i hi
      exact absurd (hunkept.symm.trans hi) (by simp)
  · have hs := h.stored i hstored
    have heq : m.greet ok = { m with
        greeted := m.client, stored := none, received := m.received ++ [(m.client, i)] } := by
      unfold Mailbox.greet
      rw [hok (by rw [hstored]; simp), hstored]
      simp
    rw [heq]
    refine ⟨⟨?_, ?_, h.kept, ?_⟩, Nat.le_refl _, Nat.le_succ _, ?_, ?_, ?_, ?_⟩
    · exact pairwise_inOrder_snoc h.ordered (hs.newer hlt)
    · exact nodup_serial_snoc h.once hs.fresh
    · intro j hj
      rcases h.delivered j hj with ⟨hsj | hu, -⟩ | hreplaced | hr
      · obtain rfl := Option.some.inj (hstored.symm.trans hsj)
        refine .inr (.inr (List.mem_append_right _ ?_))
        rw [hs.greeted, ← hlast]
        exact List.mem_singleton_self _
      · exact absurd (hunkept.symm.trans hu) (by simp)
      · exact .inr (.inl hreplaced)
      · exact .inr (.inr (List.mem_append_left _ hr))
    · intro r hr
      rcases List.mem_append.mp hr with hold | hnew
      · exact h.received_lt r hold
      · obtain rfl := List.mem_singleton.mp hnew
        exact ⟨hs.lt, Nat.le_refl _⟩
    · intro j hj
      exact absurd hj (by simp)
    · intro j hj
      exact absurd (hunkept.symm.trans hj) (by simp)
    · intro j k hj
      exact absurd hj (by simp)

end CtpCommon
