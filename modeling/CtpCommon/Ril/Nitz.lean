import CtpCommon.Lib.Mailbox
import CtpCommon.Ril.Unsolicited

/-!
# Delivery of the network time

`RIL_UNSOL_NITZ_TIME_RECEIVED` is not polled again: when it cannot be sent, its sender keeps a
copy, and `onNewCommandConnect` sends the copy to the next client.  The senders run on a vendor's
thread, the connection on the event loop, which sets `fdCommand` before it calls
`onNewCommandConnect`.

* `nitzSend`, `nitzEnd` — the two halves of `RIL_onUnsolicitedResponse` for this message;
  `rilOnUnsolicitedResponse_nitz` — **PROVED**: they are that function;
* `onNewCommandConnect` — the two messages and the copy, whose result is dropped;
* `NitzState` — libril's state with the `Mailbox` of the messages; `nitzSystem` — its steps in any
  order;
* `nitz_delivery` — **PROVED**: the mailbox delivers in every run in which no message is sent past
  a copy that waits for a connected client, no client is greeted between a message's failed send
  and its copy, and the copy is sent without an error;
* `nitz_disorder`, `nitz_lost` — a run for the first condition, and one for the last.
-/

namespace CtpCommon.Ril

open Parcel (Write)
open Mailbox

/-! ### One message -/

variable (E : UnsolEnv)

/-- The message, with the time it was received. -/
def nitzMessage (nitz : Option CString) (timeReceived : Int) : List UInt8 :=
  let p := ((Parcel.ofBytes []).writeInt32 responseUnsolicited).writeInt32 rilUnsolNitzTimeReceived
  (p.writeAll [.string16 (nitz.map E.platform.strdup8to16), .int64 timeReceived]).data

/-- Up to the send: its result, and the state. -/
def nitzSend (data : List UInt8) (faults : WriteFaults) (s : UnsolState) : Int × UnsolState :=
  let s := grabPartialWakeLock s
  let sent := sendResponseRaw s.ril.fdCommand data faults
  (sent.1, { s with ril := { s.ril with channel := s.ril.channel ++ sent.2 } })

/-- From the test of the result on: the copy, and the timer. -/
def nitzEnd (ret : Int) (data : List UInt8) (s : UnsolState) : UnsolState :=
  let s := if ret ≠ 0 then { s with lastNITZTimeData := some data } else s
  scheduleWakeTimeout E s

theorem nitz_info : unsolResponseInfo rilUnsolNitzTimeReceived
    = some ⟨rilUnsolNitzTimeReceived, .responseString, .wakePartial⟩ := by decide +kernel

/-- **The two halves are `RIL_onUnsolicitedResponse`.** -/
theorem rilOnUnsolicitedResponse_nitz {input : UnsolInput} {s : UnsolState}
    (hregister : s.registerCalled = true) (data : Option ResponseMemory) (datalen : ℕ) :
    rilOnUnsolicitedResponse E input s ⟨rilUnsolNitzTimeReceived, data, datalen⟩
      = some (let message := nitzMessage E (data.map ResponseMemory.string) input.timeReceived
          let r := nitzSend message input.faults s
          nitzEnd E r.1 message r.2) := by
  have hmore : morePayload E input (rilUnsolNitzTimeReceived : ℕ) = fun s =>
      some (s, [.int64 input.timeReceived]) := rfl
  unfold rilOnUnsolicitedResponse onUnsolicited
  rw [if_neg (by simp [hregister]), nitz_info]
  simp only [sendUnsolicited, encode, responseString, hmore, decide_true, if_true, ne_eq,
    not_true_eq_false, if_false, Option.map_some, Option.some.injEq]
  simp only [finishUnsolicited, and_true, if_true]
  rfl

/-- When a frame is sent: on an open connection, within the size limit, without a write error. -/
def Deliverable (fd : Int) (data : List UInt8) (faults : WriteFaults) : Prop :=
  0 ≤ fd ∧ data.length ≤ maxCommandBytes ∧ faults = noFaults

instance (fd : Int) (data : List UInt8) (faults : WriteFaults) :
    Decidable (Deliverable fd data faults) := inferInstanceAs (Decidable (_ ∧ _ ∧ _))

/-- `sendResponseRaw` returns `0` for the frames it sends, and only for these. -/
theorem sendResponseRaw_eq_zero_iff (fd : Int) (data : List UInt8) (faults : WriteFaults) :
    (sendResponseRaw fd data faults).1 = 0 ↔ Deliverable fd data faults := by
  obtain ⟨header, body⟩ := faults
  unfold sendResponseRaw Deliverable noFaults
  by_cases hfd : fd < 0
  · rw [if_pos hfd]
    simp [Int.not_le.mpr hfd]
  rw [if_neg hfd]
  by_cases hlen : data.length > maxCommandBytes
  · rw [if_pos hlen]
    simp [Nat.not_le.mpr hlen]
  rw [if_neg hlen]
  have hok : 0 ≤ fd ∧ data.length ≤ maxCommandBytes := by omega
  cases header <;> cases body <;> simp [blockingWrite, hok]

/-! ### A new connection -/

/-- `onNewCommandConnect`, with the result of sending the copy, which the code drops.  The version
property it sets at the end is left out. -/
def onNewCommandConnect (connected radioState : UnsolInput) (faults : WriteFaults)
    (s : UnsolState) : Option (UnsolState × Option Int) := do
  let s ← rilOnUnsolicitedResponse E connected s (intCall rilUnsolRilConnected E.version)
  let s ← rilOnUnsolicitedResponse E radioState s ⟨rilUnsolResponseRadioStateChanged, none, 0⟩
  match s.lastNITZTimeData with
  | none => return (s, none)
  | some data =>
      let sent := sendResponseRaw s.ril.fdCommand data faults
      return ({ s with
        ril := { s.ril with channel := s.ril.channel ++ sent.2 }
        lastNITZTimeData := none }, some sent.1)

/-! ### Runs -/

/-- libril's state, whether the event loop has set `fdCommand` and not yet called
`onNewCommandConnect`, the result and the message of a vendor's thread between the two halves,
and the messages as the mailbox has them. -/
structure NitzState where
  unsol : UnsolState
  connecting : Bool
  sending : Option (Int × List UInt8)
  box : Mailbox (List UInt8)

inductive NitzAction where
  | accept (fdCommand : ℕ)
  | newCommandConnect (connected radioState : UnsolInput) (faults : WriteFaults)
  | closeCommands
  | nitzTime (nitz : Option CString) (timeReceived : Int) (faults : WriteFaults)
  | nitzEnd

/-- One step, of the event loop or of the vendor's thread. -/
def nitzStep (s : NitzState) : NitzAction → Option NitzState
  | .accept fdCommand =>
      if s.unsol.ril.fdCommand < 0 ∧ s.connecting = false then some { s with
        unsol := { s.unsol with ril := { s.unsol.ril with fdCommand := fdCommand } }
        connecting := true
        box := s.box.accept } else none
  | .newCommandConnect connected radioState faults =>
      if s.connecting then
        (onNewCommandConnect E connected radioState faults s.unsol).map fun r => { s with
          unsol := r.1
          connecting := false
          box := s.box.greet (decide (r.2 = some (0 : Int))) } else none
  | .closeCommands =>
      if 0 ≤ s.unsol.ril.fdCommand ∧ s.connecting = false then some { s with
        unsol := { s.unsol with ril := { s.unsol.ril with fdCommand := -1 } } } else none
  | .nitzTime nitz timeReceived faults =>
      if s.sending.isNone then
        let message := nitzMessage E nitz timeReceived
        let r := nitzSend message faults s.unsol
        some { s with
          unsol := r.2
          sending := some (r.1, message)
          box := s.box.send (decide (r.1 = 0)) message } else none
  | .nitzEnd =>
      s.sending.map fun x => { s with
        unsol := nitzEnd E x.1 x.2 s.unsol
        sending := none
        box := s.box.keep }

/-- After `RIL_register`. -/
def nitzInit : NitzState := ⟨{ unsolInit with registerCalled := true }, false, none, .empty⟩

def nitzSystem : Runs.System NitzState NitzAction := ⟨nitzInit, nitzStep E⟩

/-- No message is sent past a copy that waits for a connected client; when a client is greeted,
no copy is still to be kept, and the copy there is can be sent. -/
def DeliversInOrder (s : NitzState) : NitzAction → Prop
  | .nitzTime nitz timeReceived faults =>
      s.connecting = true → s.unsol.lastNITZTimeData.isSome →
        ¬ Deliverable s.unsol.ril.fdCommand (nitzMessage E nitz timeReceived) faults
  | .newCommandConnect _ _ faults =>
      (∀ x ∈ s.sending, x.1 = 0) ∧
        ∀ data ∈ s.unsol.lastNITZTimeData, Deliverable s.unsol.ril.fdCommand data faults
  | _ => True

/-! ### What the messages leave alone -/

/-- A step that neither opens or closes the connection nor touches the copy. -/
def KeepsNitz (s t : UnsolState) : Prop :=
  t.ril.fdCommand = s.ril.fdCommand ∧ t.lastNITZTimeData = s.lastNITZTimeData

theorem KeepsNitz.refl (s : UnsolState) : KeepsNitz s s := ⟨rfl, rfl⟩

theorem KeepsNitz.trans {s t u : UnsolState} (h₁ : KeepsNitz s t) (h₂ : KeepsNitz t u) :
    KeepsNitz s u := ⟨h₂.1.trans h₁.1, h₂.2.trans h₁.2⟩

theorem scheduleWakeTimeout_keeps (s : UnsolState) : KeepsNitz s (scheduleWakeTimeout E s) := by
  unfold scheduleWakeTimeout
  cases s.lastWakeTimeoutInfo <;> exact ⟨rfl, rfl⟩

theorem finishUnsolicited_keeps {unsolResponse : Int}
    (hne : unsolResponse ≠ rilUnsolNitzTimeReceived)
    (input : UnsolInput) (wake : Bool) (payload : List Write) (s : UnsolState) :
    KeepsNitz s (finishUnsolicited E input unsolResponse wake payload s) := by
  simp only [finishUnsolicited, hne, and_false, if_false]
  cases wake with
  | false => exact ⟨rfl, rfl⟩
  | true => exact KeepsNitz.trans ⟨rfl, rfl⟩ (scheduleWakeTimeout_keeps E _)

/-- **Any other message** leaves connection and copy alone, if what it does in between does. -/
theorem onUnsolicited_keeps {more : Int → UnsolState → Option (UnsolState × List Write)}
    {input : UnsolInput} {s s' : UnsolState} {c : UnsolCall}
    (hne : c.unsolResponse ≠ rilUnsolNitzTimeReceived)
    (hmore : ∀ {t u payload}, more c.unsolResponse t = some (u, payload) → KeepsNitz t u)
    (h : onUnsolicited E more input s c = some s') : KeepsNitz s s' := by
  unfold onUnsolicited at h
  by_cases hregister : s.registerCalled = false
  · rw [if_pos hregister] at h
    exact Option.some.inj h ▸ KeepsNitz.refl s
  rw [if_neg hregister] at h
  rcases hinfo : unsolResponseInfo c.unsolResponse with _ | info
  · rw [hinfo] at h
    exact Option.some.inj h ▸ KeepsNitz.refl s
  rw [hinfo] at h
  obtain ⟨x, -, hcase⟩ := sendUnsolicited_cases E h
  have hgrab : KeepsNitz s
      (if (decide (info.wakeType = .wakePartial)) = true then grabPartialWakeLock s else s) := by
    split <;> exact ⟨rfl, rfl⟩
  refine hgrab.trans ?_
  generalize (if (decide (info.wakeType = .wakePartial)) = true then grabPartialWakeLock s
    else s) = s₀ at hcase ⊢
  have heffects : KeepsNitz s₀ { s₀ with ril := x.effects s₀.ril } :=
    ⟨(effects_fdCommand x s₀.ril).1, rfl⟩
  refine heffects.trans ?_
  rcases hcase with ⟨-, rfl⟩ | ⟨-, t, payload, ht, rfl⟩
  · split <;> exact ⟨rfl, rfl⟩
  · exact (hmore ht).trans (finishUnsolicited_keeps E hne input _ _ t)

theorem onNestedUnsolicited_keeps {input : UnsolInput} {s s' : UnsolState} {c : UnsolCall}
    (hne : c.unsolResponse ≠ rilUnsolNitzTimeReceived)
    (h : onNestedUnsolicited E input s c = some s') : KeepsNitz s s' := by
  refine onUnsolicited_keeps E hne (fun {t u payload} hmore => ?_) h
  obtain ⟨rfl, -⟩ := Prod.mk.inj (Option.some.inj hmore)
  exact KeepsNitz.refl _

theorem intCall_ne_nitz {n : ℕ} (h : n ≠ rilUnsolNitzTimeReceived) (v : Int) :
    (intCall n v).unsolResponse ≠ rilUnsolNitzTimeReceived :=
  fun heq => h (Int.ofNat.inj heq)

/-- The notifications of a radio state. -/
theorem processRadioState_keeps {input : UnsolInput} {s : UnsolState} {r : UnsolState × RadioState}
    (h : processRadioState E input s = some r) : KeepsNitz s r.1 := by
  unfold processRadioState at h
  simp only at h
  split at h
  · obtain ⟨s₁, h₁, h⟩ := Option.bind_eq_some_iff.mp h
    obtain ⟨s₂, h₂, h⟩ := Option.bind_eq_some_iff.mp h
    obtain ⟨s₃, h₃, h⟩ := Option.bind_eq_some_iff.mp h
    obtain rfl := Option.some.inj h
    have hs₁ : KeepsNitz s s₁ := by
      unfold notifyVoiceRadioTech at h₁
      split at h₁
      · have hnested := onNestedUnsolicited_keeps E (intCall_ne_nitz (by decide) _) h₁
        exact KeepsNitz.trans ⟨rfl, rfl⟩ hnested
      · exact Option.some.inj h₁ ▸ KeepsNitz.refl s
    have hs₂ : KeepsNitz s₁ s₂ := by
      unfold notifyCdmaSubscriptionSource at h₂
      split at h₂
      · have hnested := onNestedUnsolicited_keeps E (intCall_ne_nitz (by decide) _) h₂
        exact KeepsNitz.trans ⟨rfl, rfl⟩ hnested
      · exact Option.some.inj h₂ ▸ KeepsNitz.refl s₁
    have hs₃ : KeepsNitz s₂ s₃ := by
      unfold notifySimStatus at h₃
      split at h₃
      · have hnested := onNestedUnsolicited_keeps E (by decide) h₃
        exact KeepsNitz.trans ⟨rfl, rfl⟩ hnested
      · exact Option.some.inj h₃ ▸ KeepsNitz.refl s₂
    exact hs₁.trans (hs₂.trans hs₃)
  · obtain rfl := Option.some.inj h
    exact KeepsNitz.refl s

theorem rilOnUnsolicitedResponse_keeps {input : UnsolInput} {s s' : UnsolState} {c : UnsolCall}
    (hne : c.unsolResponse ≠ rilUnsolNitzTimeReceived)
    (h : rilOnUnsolicitedResponse E input s c = some s') : KeepsNitz s s' := by
  refine onUnsolicited_keeps E hne (fun {t u payload} hmore => ?_) h
  unfold morePayload at hmore
  by_cases hstate : c.unsolResponse = rilUnsolResponseRadioStateChanged
  · rw [if_pos hstate] at hmore
    obtain ⟨r, hr, hru⟩ := Option.map_eq_some_iff.mp hmore
    obtain ⟨rfl, -⟩ := Prod.mk.inj hru
    exact processRadioState_keeps E hr
  · rw [if_neg hstate, if_neg hne] at hmore
    obtain ⟨rfl, -⟩ := Prod.mk.inj (Option.some.inj hmore)
    exact KeepsNitz.refl _

/-- **What `onNewCommandConnect` does to the copy**: it is sent, and freed whatever comes of it. -/
theorem onNewCommandConnect_spec {connected radioState : UnsolInput} {faults : WriteFaults}
    {s : UnsolState} {r : UnsolState × Option Int}
    (h : onNewCommandConnect E connected radioState faults s = some r) :
    r.1.ril.fdCommand = s.ril.fdCommand ∧ r.1.lastNITZTimeData = none ∧
      r.2 = s.lastNITZTimeData.map fun data => (sendResponseRaw s.ril.fdCommand data faults).1 := by
  unfold onNewCommandConnect at h
  obtain ⟨s₁, h₁, h⟩ := Option.bind_eq_some_iff.mp h
  obtain ⟨s₂, h₂, h⟩ := Option.bind_eq_some_iff.mp h
  have hkeeps : KeepsNitz s s₂ :=
    (rilOnUnsolicitedResponse_keeps E (intCall_ne_nitz (by decide) _) h₁).trans
      (rilOnUnsolicitedResponse_keeps E (by decide) h₂)
  obtain ⟨hfd, hlast⟩ := hkeeps
  rw [← hfd, ← hlast]
  rcases hdata : s₂.lastNITZTimeData with _ | data
  · rw [hdata] at h
    obtain rfl := Option.some.inj h
    exact ⟨rfl, hdata, rfl⟩
  · rw [hdata] at h
    obtain rfl := Option.some.inj h
    exact ⟨rfl, rfl, rfl⟩

/-! ### The mailbox -/

/-- The mailbox is libril's: its kept message is the copy, and its clients are the connections. -/
structure NitzInv (s : NitzState) : Prop where
  mail : MailInv s.box
  stored : s.box.stored.map Item.payload = s.unsol.lastNITZTimeData
  unkept : s.box.unkept.map Item.payload = (s.sending.filter fun x => x.1 ≠ 0).map Prod.snd
  connecting : s.connecting = true → s.box.greeted < s.box.client
  greeted : s.connecting = false → s.box.greeted = s.box.client

/-- The first half of a message is a send, or the failure of one. -/
theorem NitzInv.nitzTime {s : NitzState} (h : NitzInv s) (hunkept : s.box.unkept = none)
    {nitz : Option CString} {timeReceived : Int} {faults : WriteFaults}
    (hok : DeliversInOrder E s (.nitzTime nitz timeReceived faults)) :
    let message := nitzMessage E nitz timeReceived
    let r := nitzSend message faults s.unsol
    NitzInv { s with
      unsol := r.2
      sending := some (r.1, message)
      box := s.box.send (decide (r.1 = 0)) message } := by
  intro message r
  by_cases hzero : r.1 = 0
  · have hdirect : s.box.greeted < s.box.client → s.box.stored = none := by
      intro hlt
      by_contra hstored
      have hconnecting : s.connecting = true := by
        by_contra hc
        have := h.greeted (by simpa using hc)
        omega
      refine hok hconnecting ?_ ((sendResponseRaw_eq_zero_iff _ _ _).mp hzero)
      rw [← h.stored, Option.isSome_map]
      exact Option.isSome_iff_ne_none.mpr hstored
    rw [decide_eq_true hzero]
    refine ⟨h.mail.send_ok hunkept hdirect message, h.stored, ?_, h.connecting, h.greeted⟩
    show s.box.unkept.map Item.payload
      = ((some (r.1, message)).filter fun x => x.1 ≠ 0).map Prod.snd
    rw [hunkept, hzero]
    rfl
  · rw [decide_eq_false hzero]
    refine ⟨h.mail.send_fail message, h.stored, ?_, h.connecting, h.greeted⟩
    show some message = ((some (r.1, message)).filter fun x => x.1 ≠ 0).map Prod.snd
    simp [hzero]

/-- The second half keeps the copy of a message that could not be sent. -/
theorem NitzInv.nitzEnd {s : NitzState} (h : NitzInv s) {ret : Int} {message : List UInt8}
    (hsending : s.sending = some (ret, message)) :
    NitzInv { s with
      unsol := Ril.nitzEnd E ret message s.unsol
      sending := none
      box := s.box.keep } := by
  have hunkept := h.unkept
  rw [hsending] at hunkept
  have hlast : (Ril.nitzEnd E ret message s.unsol).lastNITZTimeData
      = if ret ≠ 0 then some message else s.unsol.lastNITZTimeData := by
    unfold Ril.nitzEnd
    rw [(scheduleWakeTimeout_keeps E _).2]
    split <;> rfl
  refine ⟨h.mail.keep, ?_, ?_, ?_, ?_⟩
  · rw [hlast, keep_stored]
    by_cases hzero : ret = 0
    · have hnone : s.box.unkept = none := by
        refine Option.map_eq_none_iff.mp (hunkept.trans ?_)
        rw [hzero]
        rfl
      rw [hnone, if_neg (by simp [hzero])]
      exact h.stored
    · have hsome : s.box.unkept.map Item.payload = some message := by
        rw [hunkept]
        simp [hzero]
      obtain ⟨i, hi, hpayload⟩ := Option.map_eq_some_iff.mp hsome
      rw [hi, if_pos hzero, ← hpayload]
      rfl
  · rw [keep_unkept]
    rfl
  · rw [keep_greeted, keep_client]
    exact h.connecting
  · rw [keep_greeted, keep_client]
    exact h.greeted

/-- **Every step** is one of the mailbox, in the order the mailbox needs. -/
theorem NitzInv.step {s t : NitzState} {a : NitzAction} (h : NitzInv s)
    (hok : DeliversInOrder E s a) (hst : nitzStep E s a = some t) : NitzInv t := by
  cases a with
  | accept fdCommand =>
    simp only [nitzStep] at hst
    split at hst
    · rename_i hguard
      obtain rfl := Option.some.inj hst
      have hgreeted := h.greeted hguard.2
      refine ⟨h.mail.accept hgreeted, h.stored, h.unkept, fun _ => ?_, ?_⟩
      · show s.box.greeted < s.box.client + 1
        omega
      · exact fun hf => absurd hf (by simp)
    · exact absurd hst (by simp)
  | newCommandConnect connected radioState faults =>
    simp only [nitzStep] at hst
    split at hst
    · rename_i hconnecting
      obtain ⟨r, hr, rfl⟩ := Option.map_eq_some_iff.mp hst
      obtain ⟨-, hlast, hret⟩ := onNewCommandConnect_spec E hr
      obtain ⟨hsending, hsent⟩ := hok
      have hunkept : s.box.unkept = none := by
        have hnone : (s.sending.filter fun x => x.1 ≠ 0) = none := by
          rw [Option.filter_eq_none_iff]
          intro x hx
          simpa using hsending x hx
        have hmap := h.unkept
        rw [hnone] at hmap
        exact Option.map_eq_none_iff.mp hmap
      have hgreet : MailInv (s.box.greet (decide (r.2 = some (0 : Int)))) := by
        refine h.mail.greet (h.connecting hconnecting) hunkept fun hstored => ?_
        obtain ⟨i, hi⟩ := Option.ne_none_iff_exists'.mp hstored
        have hdata : s.unsol.lastNITZTimeData = some i.payload := by
          rw [← h.stored, hi]
          rfl
        have hzero := (sendResponseRaw_eq_zero_iff _ _ _).mpr (hsent i.payload hdata)
        rw [hret, hdata, Option.map_some, hzero]
        rfl
      refine ⟨hgreet, ?_, ?_, fun hf => absurd hf (by simp), fun _ => rfl⟩
      · rw [hlast]
        rfl
      · exact h.unkept
    · exact absurd hst (by simp)
  | closeCommands =>
    simp only [nitzStep] at hst
    split at hst
    · obtain rfl := Option.some.inj hst
      exact ⟨h.mail, h.stored, h.unkept, h.connecting, h.greeted⟩
    · exact absurd hst (by simp)
  | nitzTime nitz timeReceived faults =>
    simp only [nitzStep] at hst
    split at hst
    · rename_i hidle
      obtain rfl := Option.some.inj hst
      have hsending : s.sending = none := Option.isNone_iff_eq_none.mp hidle
      have hunkept : s.box.unkept = none := by
        have hmap := h.unkept
        rw [hsending] at hmap
        exact Option.map_eq_none_iff.mp hmap
      exact h.nitzTime E hunkept hok
    · exact absurd hst (by simp)
  | nitzEnd =>
    obtain ⟨⟨ret, message⟩, hsending, rfl⟩ := Option.map_eq_some_iff.mp hst
    exact h.nitzEnd E hsending

/-- **Delivery of the network time.**  In every run in which no message is sent past a copy that
waits for a connected client, no client is greeted before the copy of a failed message is kept,
and the copy can be sent, each client receives the messages in order, no copy is lost, and a
message that could not be sent reaches the next client once, unless a newer one replaces it. -/
theorem nitz_delivery {s : NitzState}
    (h : Runs.Reaches (nitzSystem E) (DeliversInOrder E) s) : Delivery s.box := by
  have hinv : NitzInv s := by
    refine h.invariant ⟨mailInv_empty, rfl, rfl, ?_, fun _ => rfl⟩ fun hs hok hst =>
      hs.step E hok hst
    intro hconnecting
    exact absurd (show false = true from hconnecting) (by decide)
  exact hinv.mail.delivery

/-! ### Three runs -/

instance (s : NitzState) : DecidablePred (DeliversInOrder E s) := fun a =>
  match a with
  | .nitzTime nitz timeReceived faults => inferInstanceAs (Decidable (s.connecting = true →
      s.unsol.lastNITZTimeData.isSome = true →
        ¬ Deliverable s.unsol.ril.fdCommand (nitzMessage E nitz timeReceived) faults))
  | .newCommandConnect _ _ faults => inferInstanceAs (Decidable ((∀ x ∈ s.sending, x.1 = 0) ∧
      ∀ data ∈ s.unsol.lastNITZTimeData, Deliverable s.unsol.ril.fdCommand data faults))
  | .accept _ | .closeCommands | .nitzEnd => .isTrue trivial

/-- A message that arrives without a connection, and then a connection. -/
def nitzWaiting : List NitzAction := [.nitzTime none 1 noFaults, .nitzEnd, .accept 5]

/-- What the clients have received, by number, and how many copies were lost. -/
def nitzLog (s : NitzState) : List (ℕ × ℕ) × ℕ :=
  (s.box.received.map fun r => (r.1, r.2.serial), s.box.lost.length)

/-- The copy reaches the connection, and the next message follows it. -/
theorem nitz_delivered : ∃ s : NitzState, nitzLog s = ([(1, 0), (1, 1)], 0) ∧ Delivery s.box := by
  have hrun : (Runs.exec (nitzSystem x86Env) (DeliversInOrder x86Env) nitzInit
      (nitzWaiting ++ [.newCommandConnect quietInput quietInput noFaults,
        .nitzTime none 2 noFaults, .nitzEnd])).map nitzLog = some ([(1, 0), (1, 1)], 0) := by
    decide +kernel
  obtain ⟨s, hs, hlog⟩ := Option.map_eq_some_iff.mp hrun
  exact ⟨s, hlog, nitz_delivery x86Env (Runs.reaches_of_exec hs)⟩

/-- A message is sent directly between the two steps of the connection, and the copy, which is
older, after it. -/
theorem nitz_disorder : ∃ s, Runs.Reachable (nitzSystem x86Env) s ∧
    nitzLog s = ([(1, 1), (1, 0)], 0) ∧ ¬ Delivery s.box := by
  have hrun : (Runs.exec (nitzSystem x86Env) (fun _ _ => True) nitzInit
      (nitzWaiting ++ [.nitzTime none 2 noFaults, .nitzEnd,
        .newCommandConnect quietInput quietInput noFaults])).map nitzLog
      = some ([(1, 1), (1, 0)], 0) := by decide +kernel
  obtain ⟨s, hs, hlog⟩ := Option.map_eq_some_iff.mp hrun
  refine ⟨s, Runs.reaches_of_exec hs, hlog, fun hdelivery => ?_⟩
  have hordered : (s.box.received.map fun r => (r.1, r.2.serial)).Pairwise
      fun r r' => r.1 = r'.1 → r.2 < r'.2 := List.pairwise_map.mpr hdelivery.ordered
  rw [show (s.box.received.map fun r => (r.1, r.2.serial)) = _ from congrArg Prod.fst hlog]
    at hordered
  exact absurd hordered (by decide)

/-- The copy cannot be sent to the connection, and is freed. -/
theorem nitz_lost : ∃ s, Runs.Reachable (nitzSystem x86Env) s ∧
    nitzLog s = ([], 1) ∧ ¬ Delivery s.box := by
  have hrun : (Runs.exec (nitzSystem x86Env) (fun _ _ => True) nitzInit
      (nitzWaiting ++ [.newCommandConnect quietInput quietInput ⟨some 0, none⟩])).map nitzLog
      = some ([], 1) := by decide +kernel
  obtain ⟨s, hs, hlog⟩ := Option.map_eq_some_iff.mp hrun
  refine ⟨s, Runs.reaches_of_exec hs, hlog, fun hdelivery => ?_⟩
  have hlength : s.box.lost.length = 1 := congrArg Prod.snd hlog
  rw [hdelivery.kept] at hlength
  exact absurd hlength (by decide)

end CtpCommon.Ril
