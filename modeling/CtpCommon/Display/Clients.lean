import CtpCommon.Display.Listeners

/-!
# The clients over whole runs

A client is an object in some process, and it registers under its own address.  Two processes may
use the same address, and the composer does not know the process.

* `Client`, `Session` — who registers, and what its registration says;
* `clientStep`, `clients` — clients that register and unregister in turn, between all other steps;
* `Isolated` — every client has its entry, and has received what it subscribed to;
* `isolated_of_run` — **PROVED**: so it is, and every registration is accepted, while no client
  registers at an address that is in use.
-/

namespace CtpCommon.Display

open Composer

/-! ### Clients -/

/-- A `MultiDisplayClient` object. -/
structure Client where
  process : ℕ
  address : Handle
  deriving DecidableEq

/-- A registration, with the number of calls before it. -/
structure Session where
  msg : BitVec 32
  name : List UInt8
  listener : Option ListenerRef
  since : ℕ

/-- What the composer keeps of it. -/
def Session.entry (x : Session) : MultiDisplayListener := ⟨x.msg, x.name, x.listener⟩

structure ClientsState where
  state : MdsState
  session : Client → Option Session

namespace ClientsState

variable (s : ClientsState)

def composer : Composer := s.state.composer

/-- The calls since the registration. -/
def heard (x : Session) : List Effect := s.composer.device.log.drop x.since

end ClientsState

/-- `BpMultiDisplayComposer::registerListener`: a call without a name or a message is not sent. -/
def registerCall (s : Composer) (c : Client) (listener : Option ListenerRef)
    (name : Option (List UInt8)) (msg : BitVec 32) : Int × Composer :=
  if name = none ∨ msg.toInt ≤ 0 then (mdsError, s)
  else s.registerListener listener c.address name msg

inductive ClientAction where
  | register (c : Client) (listener : Option ListenerRef) (name : Option (List UInt8))
      (msg : BitVec 32)
  | unregister (c : Client)
  | other (a : MdsAction)

def MdsAction.isRegistration : MdsAction → Bool
  | .call (.registerListener _ _ _ _) _ => true
  | .call (.unregisterListener _) _ => true
  | _ => false

/-- The sessions after a call to register; one without a name or a message opens none. -/
def openSession (s : ClientsState) (c : Client) (listener : Option ListenerRef)
    (name : Option (List UInt8)) (msg : BitVec 32) : Client → Option Session :=
  match name with
  | none => s.session
  | some name =>
      if msg.toInt ≤ 0 then s.session
      else Function.update s.session c (some ⟨msg, name, listener, s.composer.device.log.length⟩)

/-- One step.  A client registers when it is not registered, and unregisters when it is. -/
def clientStep (b : Build) (s : ClientsState) : ClientAction → Option ClientsState
  | .register c listener name msg =>
      if (s.session c).isSome then none
      else some ⟨⟨(registerCall s.composer c listener name msg).2, s.state.mipiThread⟩,
        openSession s c listener name msg⟩
  | .unregister c =>
      if (s.session c).isNone then none
      else some ⟨⟨(s.composer.unregisterListener c.address).2, s.state.mipiThread⟩,
        Function.update s.session c none⟩
  | .other a =>
      if a.isRegistration then none else (step b s.state a).map fun t => ⟨t, s.session⟩

def clients (b : Build) (boot : Boot) : Runs.System ClientsState ClientAction :=
  ⟨⟨(mds b boot).init, fun _ => none⟩, clientStep b⟩

/-! ### Isolation -/

/-- Every client that is registered has its entry, and has received every broadcast that it has
subscribed to. -/
structure Isolated (s : ClientsState) : Prop where
  entry : ∀ c x, s.session c = some x → s.composer.mListener.lookup c.address = some x.entry
  received : ∀ c x listener, s.session c = some x → x.listener = some listener →
    (s.heard x).filterMap (Effect.deliveredTo c.address listener)
      = (s.heard x).filterMap (Effect.broadcastFor x.entry)

/-- A registration with a name and a message is accepted. -/
def Accepted (s : ClientsState) : ClientAction → Prop
  | .register c listener (some name) msg =>
      0 < msg.toInt → (registerCall s.composer c listener (some name) msg).1 = mdsNoError
  | _ => True

/-- A client that registers is the only one at its address, and `drm_init` has succeeded. -/
def RegistersApart (s : ClientsState) : ClientAction → Prop
  | .register c _ (some _) msg => 0 < msg.toInt → s.composer.mDrmInit = true ∧
      ∀ c', (s.session c').isSome = true → c'.address ≠ c.address
  | _ => True

/-- What is known about the clients of a running service. -/
structure Apart (s : ClientsState) : Prop where
  isolated : Isolated s
  shown : ∃ o : Output, o.Shown s.composer.mMode
  since : ∀ c x, s.session c = some x → x.since ≤ s.composer.device.log.length
  init : ∀ c, (s.session c).isSome = true → s.composer.mDrmInit = true
  owned : ∀ handle l, s.composer.mListener.lookup handle = some l →
    ∃ c, (s.session c).isSome = true ∧ c.address = handle
  apart : ∀ c c', (s.session c).isSome = true → (s.session c').isSome = true →
    c.address = c'.address → c = c'

section

variable {b : Build} {s t : ClientsState} {a : ClientAction}

/-- A step in which nobody registers. -/
theorem apart_of_speaks (hs : Apart s) (hspeaks : Speaks s.composer t.composer)
    (hshown : ∃ o : Output, o.Shown t.composer.mMode)
    (hinit : t.composer.mDrmInit = s.composer.mDrmInit) (hsession : t.session = s.session) :
    Apart t := by
  obtain ⟨hlistener, new, hlog, htold⟩ := hspeaks
  have hheard : ∀ c x, s.session c = some x → t.heard x = s.heard x ++ new := by
    intro c x hx
    unfold ClientsState.heard
    rw [hlog, List.drop_append_of_le_length (hs.since c x hx)]
  refine ⟨⟨fun c x hx => ?_, fun c x listener hx hlisten => ?_⟩, hshown, fun c x hx => ?_,
    fun c hc => ?_, fun handle l hl => ?_, fun c c' hc hc' => ?_⟩
  · rw [hsession] at hx
    rw [hlistener]
    exact hs.isolated.entry c x hx
  · rw [hsession] at hx
    rw [hheard c x hx, List.filterMap_append, List.filterMap_append,
      hs.isolated.received c x listener hx hlisten,
      htold.delivered (hs.isolated.entry c x hx) hlisten]
  · rw [hsession] at hx
    rw [hlog, List.length_append]
    exact Nat.le_add_right_of_le (hs.since c x hx)
  · rw [hsession] at hc
    exact hinit.trans (hs.init c hc)
  · rw [hlistener] at hl
    rw [hsession]
    exact hs.owned handle l hl
  · rw [hsession] at hc hc'
    exact hs.apart c c' hc hc'

theorem request_ne_listeners {s : MdsState} {a : MdsAction} (h : a.isRegistration = false) :
    s.request a ≠ .listeners := by
  cases hinit : s.composer.mDrmInit with
  | false =>
    rw [request_of_not_init hinit]
    exact Request.noConfusion
  | true =>
    cases a with
    | call op r =>
      rw [MdsState.request, if_pos hinit]
      cases op with
      | registerListener => exact absurd h.symm Bool.false_ne_true
      | unregisterListener => exact absurd h.symm Bool.false_ne_true
      | setModePolicy policy =>
        rw [Composer.request, policyRequest]
        split_ifs <;> exact Request.noConfusion
      | prepareForVideo status =>
        rw [Composer.request]
        split_ifs <;> exact Request.noConfusion
      | _ => exact Request.noConfusion
    | setMipiMode =>
      rw [MdsState.request, if_pos hinit]
      cases s.mipiThread <;> exact Request.noConfusion
    | mipiRequest | checkLinkStatus => exact Request.noConfusion

theorem Performs.drmInit {u v : Composer} {q : Request} (h : Performs b u v q)
    (ho : ∃ o : Output, o.Shown u.mMode) : v.mDrmInit = u.mDrmInit := by
  obtain ⟨o, ho⟩ := ho
  rcases h.output with ⟨hkept, -⟩ | ⟨r, policy, video, w, -, -, hquiet, hset⟩
  · exact hkept.drmInit
  · exact (hset o (hquiet.mode.symm ▸ ho)).drmInit.trans hquiet.drmInit

/-- A call with a name and a message. -/
theorem registerCall_of_valid (s : Composer) (c : Client) (listener : Option ListenerRef)
    (name : List UInt8) {msg : BitVec 32} (hmsg : 0 < msg.toInt) :
    registerCall s c listener (some name) msg
      = s.registerListener listener c.address (some name) msg := by
  unfold registerCall
  rw [if_neg]
  rintro (h | h)
  · exact absurd h (Option.some_ne_none name)
  · omega

theorem msg_ne_zero {msg : BitVec 32} (hmsg : 0 < msg.toInt) : msg ≠ 0 := by
  rintro rfl
  exact absurd hmsg (by decide)

theorem registerListener_accepted {s : Composer} (hinit : s.mDrmInit = true) {handle : Handle}
    (hfree : s.mListener.lookup handle = none) (listener : Option ListenerRef) (name : List UInt8)
    {msg : BitVec 32} (hmsg : 0 < msg.toInt) :
    s.registerListener listener handle (some name) msg = (mdsNoError,
      { s with mListener := s.mListener.add handle ⟨msg, name, listener⟩ }) := by
  rw [registerListener, checkInit_of_init hinit]
  simp only [if_neg (msg_ne_zero hmsg), hfree]
  rfl

/-- The composer refuses a handle that is in use. -/
theorem registerListener_refused {s : Composer} {handle : Handle}
    (h : s.mDrmInit = true → (s.mListener.lookup handle).isSome = true)
    (listener : Option ListenerRef) (name : List UInt8) {msg : BitVec 32} (hmsg : 0 < msg.toInt) :
    s.registerListener listener handle (some name) msg = (mdsError, s) := by
  cases hinit : s.mDrmInit with
  | false => rw [registerListener, checkInit_of_not_init hinit]
  | true =>
    rw [registerListener, checkInit_of_init hinit]
    simp only [if_neg (msg_ne_zero hmsg), if_pos (h hinit)]

/-- A call without a name or a message changes nothing. -/
theorem register_invalid (hs : Apart s) (c : Client) (listener : Option ListenerRef)
    (name : Option (List UInt8)) (msg : BitVec 32) (h : name = none ∨ msg.toInt ≤ 0) :
    Apart ⟨⟨(registerCall s.composer c listener name msg).2, s.state.mipiThread⟩,
      openSession s c listener name msg⟩ := by
  have hcall : registerCall s.composer c listener name msg = (mdsError, s.composer) := if_pos h
  have hsession : openSession s c listener name msg = s.session := by
    unfold openSession
    cases name with
    | none => rfl
    | some name => exact if_pos (h.resolve_left (Option.some_ne_none name))
  rw [hcall, hsession]
  exact hs

/-- A session of the table is the one that was put into it, or another client's. -/
theorem session_of_update {session : Client → Option Session} {c c' : Client}
    {new : Option Session} {x : Session} (h : Function.update session c new c' = some x) :
    (c' = c ∧ new = some x) ∨ (c' ≠ c ∧ session c' = some x) := by
  by_cases hc : c' = c
  · subst hc
    rw [Function.update_self] at h
    exact Or.inl ⟨rfl, h⟩
  · rw [Function.update_of_ne hc] at h
    exact Or.inr ⟨hc, h⟩

/-- **A registration** at an address of its own. -/
theorem register_apart (hs : Apart s) {c : Client} (listener : Option ListenerRef)
    (name : List UInt8) {msg : BitVec 32} (hmsg : 0 < msg.toInt)
    (hinit : s.composer.mDrmInit = true)
    (hown : ∀ c', (s.session c').isSome = true → c'.address ≠ c.address) :
    (registerCall s.composer c listener (some name) msg).1 = mdsNoError ∧
      Apart ⟨⟨(registerCall s.composer c listener (some name) msg).2, s.state.mipiThread⟩,
        openSession s c listener (some name) msg⟩ := by
  have hfree : s.composer.mListener.lookup c.address = none := by
    cases hlookup : s.composer.mListener.lookup c.address with
    | none => rfl
    | some l =>
      obtain ⟨c', hc', haddress⟩ := hs.owned _ l hlookup
      exact absurd haddress (hown c' hc')
  have hcall := registerListener_accepted hinit hfree listener name hmsg
  have hsession : openSession s c listener (some name) msg = Function.update s.session c
      (some ⟨msg, name, listener, s.composer.device.log.length⟩) :=
    if_neg (not_le.mpr hmsg)
  rw [registerCall_of_valid s.composer c listener name hmsg, hcall, hsession]
  have hother : ∀ c', (s.session c').isSome = true → c' ≠ c := by
    rintro c' hc' rfl
    exact hown c' hc' rfl
  have hcases : ∀ c' x, Function.update s.session c
      (some ⟨msg, name, listener, s.composer.device.log.length⟩) c' = some x →
      (c' = c ∧ x = ⟨msg, name, listener, s.composer.device.log.length⟩) ∨
        s.session c' = some x := by
    intro c' x hx
    rcases session_of_update hx with ⟨hc, hnew⟩ | ⟨-, hold⟩
    · exact Or.inl ⟨hc, (Option.some.inj hnew).symm⟩
    · exact Or.inr hold
  refine ⟨rfl, ⟨fun c' x hx => ?_, fun c' x listener' hx hlisten => ?_⟩, hs.shown,
    fun c' x hx => ?_, fun _ _ => hinit, fun handle l hl => ?_, fun c' c'' hc' hc'' haddress => ?_⟩
  · show (s.composer.mListener.add _ _).lookup _ = _
    rw [KeyedVector.lookup_add]
    rcases hcases c' x hx with ⟨rfl, rfl⟩ | hold
    · exact if_pos rfl
    · rw [if_neg (hown c' (Option.isSome_of_eq_some hold)).symm]
      exact hs.isolated.entry c' x hold
  · rcases hcases c' x hx with ⟨rfl, rfl⟩ | hold
    · show (s.composer.device.log.drop _).filterMap _ = (s.composer.device.log.drop _).filterMap _
      rw [List.drop_length]
      rfl
    · exact hs.isolated.received c' x listener' hold hlisten
  · rcases hcases c' x hx with ⟨rfl, rfl⟩ | hold
    · exact le_refl _
    · exact hs.since c' x hold
  · have hl : (s.composer.mListener.add c.address ⟨msg, name, listener⟩).lookup handle
        = some l := hl
    rw [KeyedVector.lookup_add] at hl
    by_cases hhandle : c.address = handle
    · refine ⟨c, ?_, hhandle⟩
      show (Function.update s.session c _ c).isSome = true
      rw [Function.update_self]
      rfl
    · rw [if_neg hhandle] at hl
      obtain ⟨c', hc', haddress⟩ := hs.owned handle l hl
      refine ⟨c', ?_, haddress⟩
      show (Function.update s.session c _ c').isSome = true
      rw [Function.update_of_ne (hother c' hc')]
      exact hc'
  · obtain ⟨x, hx⟩ := Option.isSome_iff_exists.mp hc'
    obtain ⟨y, hy⟩ := Option.isSome_iff_exists.mp hc''
    rcases hcases c' x hx with ⟨rfl, -⟩ | hold
    · rcases hcases c'' y hy with ⟨rfl, -⟩ | hold'
      · rfl
      · exact absurd haddress.symm (hown c'' (Option.isSome_of_eq_some hold'))
    · rcases hcases c'' y hy with ⟨rfl, -⟩ | hold'
      · exact absurd haddress (hown c' (Option.isSome_of_eq_some hold))
      · exact hs.apart c' c'' (Option.isSome_of_eq_some hold) (Option.isSome_of_eq_some hold')
          haddress

/-- **Unregistering** takes away the client's own listener. -/
theorem unregister_apart (hs : Apart s) {c : Client} (hc : (s.session c).isSome = true) :
    Apart ⟨⟨(s.composer.unregisterListener c.address).2, s.state.mipiThread⟩,
      Function.update s.session c none⟩ := by
  have hinit := hs.init c hc
  have hremoved : (s.composer.unregisterListener c.address).2
      = { s.composer with mListener := s.composer.mListener.removeItem c.address } := by
    rw [unregisterListener, checkInit_of_init hinit]
  have hcases : ∀ c' x, Function.update s.session c none c' = some x →
      c' ≠ c ∧ s.session c' = some x := fun c' x hx =>
    (session_of_update hx).resolve_left fun h => absurd h.2.symm (Option.some_ne_none x)
  rw [hremoved]
  refine ⟨⟨fun c' x hx => ?_, fun c' x listener hx hlisten => ?_⟩, hs.shown, fun c' x hx => ?_,
    fun _ _ => hinit, fun handle l hl => ?_, fun c' c'' hc' hc'' haddress => ?_⟩
  · obtain ⟨hne, hold⟩ := hcases c' x hx
    show (s.composer.mListener.removeItem _).lookup _ = _
    rw [KeyedVector.lookup_removeItem, if_neg]
    · exact hs.isolated.entry c' x hold
    · exact fun h => hne (hs.apart c c' hc (Option.isSome_of_eq_some hold) h).symm
  · exact hs.isolated.received c' x listener (hcases c' x hx).2 hlisten
  · exact hs.since c' x (hcases c' x hx).2
  · have hl : (s.composer.mListener.removeItem c.address).lookup handle = some l := hl
    rw [KeyedVector.lookup_removeItem] at hl
    by_cases hhandle : c.address = handle
    · rw [if_pos hhandle] at hl
      exact absurd hl.symm (Option.some_ne_none l)
    · rw [if_neg hhandle] at hl
      obtain ⟨c', hc', haddress⟩ := hs.owned handle l hl
      refine ⟨c', ?_, haddress⟩
      show (Function.update s.session c none c').isSome = true
      rw [Function.update_of_ne]
      · exact hc'
      · rintro rfl
        exact hhandle haddress
  · obtain ⟨x, hx⟩ := Option.isSome_iff_exists.mp hc'
    obtain ⟨y, hy⟩ := Option.isSome_iff_exists.mp hc''
    exact hs.apart c' c'' (Option.isSome_of_eq_some (hcases c' x hx).2)
      (Option.isSome_of_eq_some (hcases c'' y hy).2) haddress

/-- A registration that is accepted was at an address of its own. -/
theorem apart_of_accepted (hs : Isolated s) {c : Client} {listener : Option ListenerRef}
    {name : List UInt8} {msg : BitVec 32} (hmsg : 0 < msg.toInt)
    (h : (registerCall s.composer c listener (some name) msg).1 = mdsNoError) :
    s.composer.mDrmInit = true ∧
      ∀ c', (s.session c').isSome = true → c'.address ≠ c.address := by
  rw [registerCall_of_valid s.composer c listener name hmsg] at h
  by_contra hnot
  rw [registerListener_refused (fun hinit => ?_) listener name hmsg] at h
  · exact absurd (show mdsError = mdsNoError from h) (by decide)
  by_contra hfree
  refine hnot ⟨hinit, fun c' hc' haddress => hfree ?_⟩
  obtain ⟨x, hx⟩ := Option.isSome_iff_exists.mp hc'
  rw [← haddress, hs.entry c' x hx]
  rfl

/-- A call to register isolates the clients exactly under its condition. -/
theorem register_isolated (hs : Apart s) (c : Client) (listener : Option ListenerRef)
    (name : Option (List UInt8)) (msg : BitVec 32)
    (ht : t = ⟨⟨(registerCall s.composer c listener name msg).2, s.state.mipiThread⟩,
      openSession s c listener name msg⟩) :
    (RegistersApart s (.register c listener name msg) → Apart t) ∧
      (Accepted s (.register c listener name msg) ∧ Isolated t ↔
        RegistersApart s (.register c listener name msg)) := by
  subst ht
  cases name with
  | none =>
    have ht := register_invalid hs c listener none msg (Or.inl rfl)
    exact ⟨fun _ => ht, fun _ => trivial, fun _ => ⟨trivial, ht.isolated⟩⟩
  | some name =>
    by_cases hmsg : 0 < msg.toInt
    · refine ⟨fun hok => (register_apart hs listener name hmsg (hok hmsg).1 (hok hmsg).2).2,
        fun h _ => apart_of_accepted hs.isolated hmsg (h.1 hmsg), fun hok => ?_⟩
      obtain ⟨haccepted, ht⟩ := register_apart hs listener name hmsg (hok hmsg).1 (hok hmsg).2
      exact ⟨fun _ => haccepted, ht.isolated⟩
    · have ht := register_invalid hs c listener (some name) msg (Or.inr (not_lt.mp hmsg))
      exact ⟨fun _ => ht, fun _ h => absurd h hmsg,
        fun _ => ⟨fun h => absurd h hmsg, ht.isolated⟩⟩

/-- **A step isolates the clients** exactly under its condition. -/
theorem clientStep_isolated (hs : Apart s) (hst : clientStep b s a = some t) :
    (RegistersApart s a → Apart t) ∧ (Accepted s a ∧ Isolated t ↔ RegistersApart s a) := by
  cases a with
  | register c listener name msg =>
    simp only [clientStep] at hst
    split at hst
    · exact absurd hst.symm (Option.some_ne_none t)
    · exact register_isolated hs c listener name msg (Option.some.inj hst).symm
  | unregister c =>
    simp only [clientStep] at hst
    split at hst
    · exact absurd hst.symm (Option.some_ne_none t)
    · rename_i hc
      obtain rfl := Option.some.inj hst
      have ht := unregister_apart hs (c := c) (by
        cases hsession : s.session c with
        | none => exact absurd (by rw [hsession]; rfl) hc
        | some x => rfl)
      exact ⟨fun _ => ht, fun _ => trivial, fun _ => ⟨trivial, ht.isolated⟩⟩
  | other a =>
    simp only [clientStep] at hst
    split at hst
    · exact absurd hst.symm (Option.some_ne_none t)
    · rename_i ha
      obtain ⟨u, hu, rfl⟩ := Option.map_eq_some_iff.mp hst
      have hperforms := step_performs hu
      have hspeaks := hperforms.listener hs.shown
        (request_ne_listeners (Bool.eq_false_iff.mpr ha))
      have ht : Apart ⟨u, s.session⟩ := apart_of_speaks hs hspeaks (hperforms.shown hs.shown)
        (hperforms.drmInit hs.shown) rfl
      exact ⟨fun _ => ht, fun _ => trivial, fun _ => ⟨trivial, ht.isolated⟩⟩

theorem apart_init (b : Build) (boot : Boot) : Apart (clients b boot).init where
  isolated := ⟨fun _ x hx => absurd hx.symm (Option.some_ne_none x),
    fun _ x _ hx => absurd hx.symm (Option.some_ne_none x)⟩
  shown := (construct_panelOnTold b boot).1
  since _ x hx := absurd hx.symm (Option.some_ne_none x)
  init _ hc := absurd hc Bool.false_ne_true
  owned handle l hl := absurd ((construct_mListener b boot handle).symm.trans hl).symm
    (Option.some_ne_none l)
  apart _ _ hc := absurd hc Bool.false_ne_true

end

/-- **The clients are isolated** in every run in which each registers at an address of its own; a
client that registers at an address in use is refused. -/
theorem isolated_of_run {b : Build} {boot : Boot} {s : ClientsState}
    (h : Runs.Reaches (clients b boot) RegistersApart s) :
    Isolated s ∧ ∀ a t, clientStep b s a = some t →
      (Accepted s a ∧ Isolated t ↔ RegistersApart s a) := by
  have hs : Apart s := h.invariant (apart_init b boot)
    fun hs hok hst => (clientStep_isolated hs hst).1 hok
  exact ⟨hs.isolated, fun a t hst => (clientStep_isolated hs hst).2⟩

/-- The first of two clients, at its own address. -/
theorem registersApart_second {s : ClientsState} (hinit : s.composer.mDrmInit = true)
    (hsession : ∀ c, (s.session c).isSome = true → c.address = 16) :
    RegistersApart s (.register ⟨2, 32⟩ (some 8) (some []) 1) := fun _ => ⟨hinit, fun c hc h => by
  rw [hsession c hc] at h
  exact absurd h (by decide)⟩

/-- Two clients at their own addresses; one unregisters. -/
theorem isolated_of_run_two : ∃ s : ClientsState, (s.session ⟨1, 16⟩).isSome = true ∧
    s.composer.mListener.lookup 16 = some ⟨1, [], some 7⟩ := by
  have hfirst : Runs.Reaches (clients ⟨true, true⟩ (Boot.simple drmHdmiConnected))
      RegistersApart _ :=
    .step (a := ClientAction.register ⟨1, 16⟩ (some 7) (some []) 1) .init
      (fun _ => ⟨rfl, fun _ h => absurd h Bool.false_ne_true⟩) rfl
  have hsecond := Runs.Reaches.step (a := ClientAction.register ⟨2, 32⟩ (some 8) (some []) 1) hfirst
    (registersApart_second rfl fun c hc => by
      by_contra hne
      have hother : c ≠ ⟨1, 16⟩ := fun h => hne (h ▸ rfl)
      have hopen : (Function.update (fun _ => none) (⟨1, 16⟩ : Client) (some (_ : Session))
        c).isSome = true := hc
      rw [Function.update_of_ne hother] at hopen
      exact absurd hopen Bool.false_ne_true) rfl
  have hlast := Runs.Reaches.step (a := ClientAction.unregister ⟨2, 32⟩) hsecond trivial rfl
  exact ⟨_, rfl, (isolated_of_run hlast).1.entry ⟨1, 16⟩ ⟨1, [], some 7, _⟩ rfl⟩

/-- Two processes that use the same address. -/
theorem registration_is_refused : ¬∀ (b : Build) (boot : Boot) (s t : ClientsState)
    (a : ClientAction), boot.drmInit = true → Runs.Reachable (clients b boot) s →
      clientStep b s a = some t → Accepted s a ∧ Isolated t := by
  intro h
  have hfirst : Runs.Reachable (clients ⟨true, true⟩ (Boot.simple drmHdmiConnected)) _ :=
    .step (a := .register ⟨1, 16⟩ (some 7) (some []) 1) .init trivial rfl
  have haccepted := (h _ _ _ _ (.register ⟨2, 16⟩ (some 8) (some []) 1) rfl hfirst rfl).1
  exact absurd (haccepted (by decide)) (by decide)

end CtpCommon.Display
