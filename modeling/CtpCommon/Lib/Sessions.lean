import CtpCommon.Lib.Runs

/-!
# Sessions: answers stay in the session of their question

A server works in numbered sessions.  Items arrive in a session, live for a while, and an item
that lives may be answered; an answer is logged with the session of its item and the session it
was given in.  This file proves, for any state type seen through a `View`, that answers never
cross sessions, provided that a new session begins only when no item lives:

* `View.Quiet` — a step inside a session: items may die, arrive and be answered;
  `View.Quiet.trans` — **PROVED**: several of them are one;
* `View.Turn` — the step to the next session;
* `View.isolated` — **PROVED**: in every run made of such steps every answer was given in the
  session of its item.

Nothing here is specific to a program.
-/

namespace CtpCommon.Sessions

/-- How a state is seen: the current session, the items that may still be answered, the session
each arrived in, and the answers given so far, as pairs of the item's session and the answer's. -/
structure View (σ ι : Type) where
  session : σ → ℕ
  live : σ → ι → Prop
  owner : σ → ι → ℕ
  log : σ → List (ℕ × ℕ)

namespace View

variable {σ ι α : Type} {V : View σ ι} {s t u : σ}

/-- **A step inside a session.**  An item that lives afterwards lived before, under the same
owner, or arrived in this session; a new answer is to an item that lived, or that arrived in this
very step. -/
structure Quiet (V : View σ ι) (s t : σ) : Prop where
  session : V.session t = V.session s
  live : ∀ i, V.live t i →
    (V.live s i ∧ V.owner t i = V.owner s i) ∨ V.owner t i = V.session s
  log : ∀ m ∈ V.log t, m ∈ V.log s ∨ (∃ i, V.live s i ∧ m = (V.owner s i, V.session s)) ∨
    m = (V.session s, V.session s)

/-- **The next session**: no item lives before or after. -/
structure Turn (V : View σ ι) (s t : σ) : Prop where
  before : ∀ i, ¬ V.live s i
  after : ∀ i, ¬ V.live t i
  log : V.log t = V.log s

theorem Quiet.refl (V : View σ ι) (s : σ) : V.Quiet s s :=
  ⟨rfl, fun _ h => .inl ⟨h, rfl⟩, fun _ h => .inl h⟩

/-- Steps inside a session compose. -/
theorem Quiet.trans (h₁ : V.Quiet s t) (h₂ : V.Quiet t u) : V.Quiet s u := by
  refine ⟨h₂.session.trans h₁.session, ?_, ?_⟩
  · intro i hi
    rcases h₂.live i hi with ⟨hlive, howner⟩ | howner
    · rcases h₁.live i hlive with ⟨hlive', howner'⟩ | howner'
      · exact .inl ⟨hlive', howner.trans howner'⟩
      · exact .inr (howner.trans howner')
    · exact .inr (howner.trans h₁.session)
  · intro m hm
    rcases h₂.log m hm with hm | ⟨i, hlive, rfl⟩ | rfl
    · exact h₁.log m hm
    · rw [h₁.session]
      rcases h₁.live i hlive with ⟨hlive', howner⟩ | howner
      · exact .inr (.inl ⟨i, hlive', by rw [howner]⟩)
      · exact .inr (.inr (by rw [howner]))
    · exact .inr (.inr (by rw [h₁.session]))

/-- Items live in their own session, and every answer was given in its item's. -/
structure Isolated (V : View σ ι) (s : σ) : Prop where
  live : ∀ i, V.live s i → V.owner s i = V.session s
  log : ∀ m ∈ V.log s, m.1 = m.2

theorem Isolated.quiet (hs : V.Isolated s) (h : V.Quiet s t) : V.Isolated t := by
  refine ⟨?_, ?_⟩
  · intro i hi
    rw [h.session]
    rcases h.live i hi with ⟨hlive, howner⟩ | howner
    · exact howner.trans (hs.live i hlive)
    · exact howner
  · intro m hm
    rcases h.log m hm with hm | ⟨i, hlive, rfl⟩ | rfl
    · exact hs.log m hm
    · exact hs.live i hlive
    · rfl

theorem Isolated.turn (hs : V.Isolated s) (h : V.Turn s t) : V.Isolated t :=
  ⟨fun i hi => absurd hi (h.after i), fun m hm => hs.log m (h.log ▸ hm)⟩

/-- **Answers never cross sessions**, in every run whose steps stay in a session or turn to the
next one; `J` is an invariant of the system's own that the steps may rely on. -/
theorem isolated (V : View σ ι) {M : Runs.System σ α} {ok : σ → α → Prop} (J : σ → Prop)
    (hlive : ∀ i, ¬ V.live M.init i) (hlog : V.log M.init = []) (hJ : J M.init)
    (hstep : ∀ {s t a}, J s → ok s a → M.step s a = some t →
      J t ∧ (V.Quiet s t ∨ V.Turn s t))
    (h : Runs.Reaches M ok s) : V.Isolated s := by
  have hboth : J s ∧ V.Isolated s := by
    refine h.invariant (I := fun s => J s ∧ V.Isolated s)
      ⟨hJ, fun i hi => absurd hi (hlive i), fun m hm => ?_⟩ ?_
    · rw [hlog] at hm
      exact absurd hm List.not_mem_nil
    · rintro s t a ⟨hj, hi⟩ hok hst
      obtain ⟨hj', hquiet | hturn⟩ := hstep hj hok hst
      · exact ⟨hj', hi.quiet hquiet⟩
      · exact ⟨hj', hi.turn hturn⟩
  exact hboth.2

end View

end CtpCommon.Sessions
