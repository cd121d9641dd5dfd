import CtpCommon.Lights.Leds
import Mathlib.Data.List.Induction

/-!
# The light that is to be seen

Attention comes before notifications, and those before the battery.  `set_light` stores the state it
is given and renders the lit light that comes first.

* `latest`, `topLit` — the state a light was last given, and the light that is to be seen;
* `shows_topLit`, `dark_of_topLit` — **PROVED**: after any calls that light is shown, and nothing
  when there is none;
* `runLights_swap` — **PROVED**: calls on two devices commute while a light stays lit;
* `leds_arbitrated` — **PROVED**: all of this, from files that hold anything.
-/

namespace CtpCommon.Lights

/-- The state a light was last given. -/
def latest (calls : List Call) (l : Light) : LightState :=
  ((calls.filter fun c => c.1 = .light l).getLast?.map Prod.snd).getD zeroState

/-- The lit light of the highest priority. -/
def topLit (lights : Light → LightState) : Option Light :=
  [.attention, .notification, .battery].find? fun l => isLit (lights l)

variable {files files' : Files} {state : LightState}

/-! ### Calls -/

/-- The state the LEDs are set to by a call on a light. -/
theorem handleLedPrioritizedLocked_eq (lights : Light → LightState) (state : LightState) :
    handleLedPrioritizedLocked lights state
      = setLightLocked (((topLit lights).map lights).getD state) := by
  unfold handleLedPrioritizedLocked topLit
  simp only [List.find?_cons, List.find?_nil]
  cases isLit (lights .attention) with
  | true => rfl
  | false =>
    cases isLit (lights .notification) with
    | true => rfl
    | false =>
      cases isLit (lights .battery) with
      | true => rfl
      | false => rfl

theorem topLit_none {lights : Light → LightState} (h : topLit lights = none) (l : Light) :
    ¬ isLit (lights l) = true :=
  List.find?_eq_none.mp h l (by cases l <;> decide)

theorem topLit_some {lights : Light → LightState} {l : Light} (h : topLit lights = some l) :
    isLit (lights l) = true :=
  List.find?_some (p := fun l => isLit (lights l)) h

/-- No call mixes a steady and a blinking command, at any of its writes. -/
theorem not_mixed_lightWrites (hmixed : ¬ Mixed files) (lights : Light → LightState) (c : Call)
    (k : ℕ) : ¬ Mixed (perform files ((lightWrites lights c).take k)) := by
  obtain ⟨device, state⟩ := c
  cases device with
  | backlight =>
    have hother : ∀ f, f ≠ .lcd → perform files ((setLightBacklight state).take k) f = files f := by
      intro f hf
      refine perform_other fun w hw => ?_
      rw [List.mem_singleton.mp (List.mem_of_mem_take hw)]
      exact Ne.symm hf
    show ¬ Mixed (perform files ((setLightBacklight state).take k))
    rintro ⟨⟨l, hon⟩, ⟨l', hblinking⟩⟩
    unfold On at hon
    unfold Blinking at hblinking
    rw [hother (.led l) LightFile.noConfusion] at hon
    rw [hother (.blink l') LightFile.noConfusion] at hblinking
    exact hmixed ⟨⟨l, hon⟩, ⟨l', hblinking⟩⟩
  | light l =>
    show ¬ Mixed (perform files ((handleLedPrioritizedLocked _ state).take k))
    rw [handleLedPrioritizedLocked_eq]
    exact not_mixed_setLightLocked hmixed _ k
  | buttons =>
    rw [lightWrites, List.take_nil]
    exact hmixed

theorem runLights_append (files : Files) (calls later : List Call) :
    runLights files (calls ++ later) = later.foldl setLight (runLights files calls) :=
  List.foldl_append

theorem latest_append (calls : List Call) (c : Call) (l : Light) :
    latest (calls ++ [c]) l = if c.1 = .light l then c.2 else latest calls l := by
  unfold latest
  rw [List.filter_append]
  by_cases hc : c.1 = .light l
  · have hlast : [c].filter (fun c => c.1 = .light l) = [c] :=
      List.filter_cons_of_pos (decide_eq_true hc)
    rw [hlast, if_pos hc, List.getLast?_concat]
    rfl
  · have hnone : [c].filter (fun c => c.1 = .light l) = [] :=
      List.filter_cons_of_neg (by simpa using hc)
    rw [hnone, if_neg hc, List.append_nil]

theorem storeLight_apply (lights : Light → LightState) (c : Call) (l : Light) :
    storeLight lights c l = if c.1 = .light l then c.2 else lights l := by
  obtain ⟨device, state⟩ := c
  cases device with
  | light k =>
    by_cases hk : k = l
    · subst hk
      simp [storeLight]
    · simp [storeLight, hk, Function.update_of_ne (Ne.symm hk)]
  | backlight => rfl
  | buttons => rfl

/-- `g_lights` holds the latest states. -/
theorem lights_runLights (files : Files) (calls : List Call) :
    (runLights files calls).lights = latest calls := by
  induction calls using List.reverseRecOn with
  | nil => rfl
  | append_singleton calls c ih =>
    funext l
    rw [runLights_append, latest_append, ← ih]
    exact storeLight_apply _ c l

/-- After a call on a light the files show the light that is to be seen, or the state of the call
when none is lit. -/
theorem shows_light (files : Files) (calls : List Call) (l : Light) (state : LightState) :
    Shows (runLights files (calls ++ [(.light l, state)])).files
      (((topLit (latest (calls ++ [(.light l, state)]))).map
        (latest (calls ++ [(.light l, state)]))).getD state) := by
  rw [← lights_runLights files, runLights_append]
  show Shows (perform _ (handleLedPrioritizedLocked _ state)) _
  rw [handleLedPrioritizedLocked_eq]
  exact (perform_setLightLocked _ _).1

/-- Another call leaves the files of the LEDs as they are. -/
theorem files_other (s : LightsState) {c : Call} (hc : ∀ l, c.1 ≠ .light l) (l : Led) :
    (setLight s c).files (.led l) = s.files (.led l) ∧
      (setLight s c).files (.blink l) = s.files (.blink l) := by
  obtain ⟨device, state⟩ := c
  cases device with
  | light k => exact absurd rfl (hc k)
  | backlight => exact ⟨rfl, rfl⟩
  | buttons => exact ⟨rfl, rfl⟩

theorem latest_other (calls : List Call) {c : Call} (hc : ∀ l, c.1 ≠ .light l) :
    latest (calls ++ [c]) = latest calls := by
  funext l
  rw [latest_append, if_neg (hc l)]

/-- **The light that is to be seen is shown.** -/
theorem shows_topLit (files : Files) (calls : List Call) {l : Light}
    (h : topLit (latest calls) = some l) :
    Shows (runLights files calls).files (latest calls l) := by
  induction calls using List.reverseRecOn generalizing l with
  | nil => exact absurd (topLit_some h) (show ¬ isLit zeroState = true by decide)
  | append_singleton calls c ih =>
    by_cases hc : ∃ k, c.1 = .light k
    · obtain ⟨k, hk⟩ := hc
      have hshows := shows_light files calls k c.2
      rw [← hk, show (c.1, c.2) = c from rfl, h] at hshows
      exact hshows
    · have hother : ∀ k, c.1 ≠ .light k := fun k hk => hc ⟨k, hk⟩
      rw [latest_other calls hother] at h ⊢
      intro led
      obtain ⟨hled, hblink⟩ := files_other (runLights files calls) hother led
      have hshows := ih h led
      rw [runLights_append]
      show ((setLight _ c).files _, (setLight _ c).files _) = _
      rw [hled, hblink]
      exact hshows

/-- **Nothing is seen when no light is lit**, once a light has been set. -/
theorem dark_of_topLit (files : Files) (calls : List Call) (h : topLit (latest calls) = none)
    (hset : (∃ c ∈ calls, ∃ l, c.1 = .light l) ∨ Dark files) :
    Dark (runLights files calls).files := by
  induction calls using List.reverseRecOn with
  | nil =>
    rcases hset with ⟨c, hc, -⟩ | hdark
    · exact absurd hc List.not_mem_nil
    · exact hdark
  | append_singleton calls c ih =>
    by_cases hc : ∃ k, c.1 = .light k
    · obtain ⟨k, hk⟩ := hc
      have hshows := shows_light files calls k c.2
      rw [← hk, show (c.1, c.2) = c from rfl, h] at hshows
      refine hshows.dark ?_
      have hunlit := topLit_none h k
      rw [latest_append, if_pos hk] at hunlit
      exact hunlit
    · have hother : ∀ k, c.1 ≠ .light k := fun k hk => hc ⟨k, hk⟩
      rw [latest_other calls hother] at h
      have hset' : (∃ c ∈ calls, ∃ l, c.1 = .light l) ∨ Dark files := by
        refine hset.imp_left ?_
        rintro ⟨d, hd, k, hk⟩
        rcases List.mem_append.mp hd with hd | hd
        · exact ⟨d, hd, k, hk⟩
        · rw [List.mem_singleton.mp hd] at hk
          exact absurd hk (hother k)
      intro led
      obtain ⟨hled, hblink⟩ := files_other (runLights files calls) hother led
      have hdark := ih h hset' led
      rw [runLights_append]
      show ¬ ((setLight _ c).files _).value ≠ 0 ∧ ¬ ((setLight _ c).files _).value ≠ 0
      rw [hled, hblink]
      exact hdark

/-! ### All calls -/

/-- Calls on two devices, in either order. -/
theorem latest_swap (calls : List Call) {c c' : Call} (hne : c.1 ≠ c'.1) :
    latest (calls ++ [c, c']) = latest (calls ++ [c', c]) := by
  have hsplit : ∀ d d' : Call, calls ++ [d, d'] = calls ++ [d] ++ [d'] := by
    intro d d'
    rw [List.append_assoc]
    rfl
  funext l
  rw [hsplit, hsplit, latest_append, latest_append, latest_append, latest_append]
  by_cases hc : c.1 = .light l
  · have hc' : ¬ c'.1 = .light l := fun h => hne (hc.trans h.symm)
    rw [if_pos hc, if_pos hc, if_neg hc']
  · rw [if_neg hc, if_neg hc]

/-- The backlight has a file of its own. -/
theorem setLight_lcd (s : LightsState) (c : Call) : (setLight s c).files .lcd =
    if c.1 = .backlight then .int (c.2.color &&& 0xff).toNat else s.files .lcd := by
  obtain ⟨device, state⟩ := c
  cases device with
  | backlight => rfl
  | light l =>
    show perform s.files (handleLedPrioritizedLocked _ state) .lcd = s.files .lcd
    rw [handleLedPrioritizedLocked_eq]
    exact (perform_setLightLocked _ _).2
  | buttons => rfl

/-- Files that show one state agree but for the backlight. -/
theorem Shows.ext (h : Shows files state) (h' : Shows files' state)
    (hlcd : files .lcd = files' .lcd) : files = files' := by
  funext f
  cases f with
  | lcd => exact hlcd
  | led l => exact congrArg Prod.fst ((h l).trans (h' l).symm)
  | blink l => exact congrArg Prod.snd ((h l).trans (h' l).symm)

/-- **Calls on two devices commute** while a light is lit after them. -/
theorem runLights_swap (files : Files) (calls : List Call) {c c' : Call} (hne : c.1 ≠ c'.1)
    (hlit : topLit (latest (calls ++ [c, c'])) ≠ none) :
    runLights files (calls ++ [c, c']) = runLights files (calls ++ [c', c]) := by
  obtain ⟨l, hl⟩ := Option.ne_none_iff_exists'.mp hlit
  have hswap := latest_swap calls hne
  have hshows := shows_topLit files (calls ++ [c, c']) hl
  have hshows' := shows_topLit files (calls ++ [c', c]) (hswap ▸ hl)
  have hlcd : (runLights files (calls ++ [c, c'])).files .lcd
      = (runLights files (calls ++ [c', c])).files .lcd := by
    rw [runLights_append, runLights_append]
    show (setLight (setLight _ c) c').files .lcd = (setLight (setLight _ c') c).files .lcd
    rw [setLight_lcd, setLight_lcd, setLight_lcd, setLight_lcd]
    by_cases hc : c.1 = .backlight
    · have hc' : ¬ c'.1 = .backlight := fun h => hne (hc.trans h.symm)
      rw [if_pos hc, if_pos hc, if_neg hc']
    · rw [if_neg hc, if_neg hc]
  refine LightsState.ext ?_ ?_
  · rw [lights_runLights, lights_runLights, hswap]
  · rw [← hswap] at hshows'
    exact hshows.ext hshows' hlcd

/-- **The light that is to be seen.**  After any calls of `set_light`, from files that hold
anything:
while a light is lit, the files of the LEDs are the rendering of the lit light of the highest
priority, which is on or blinks, and not both; when none is lit, once a light has been set, neither
LED is on or blinks.  Between two writes nothing is mixed either, and calls on two devices commute
while a light stays lit, whatever follows them. -/
theorem leds_arbitrated (files : Files) (calls : List Call) :
    (∀ l, topLit (latest calls) = some l →
      Shows (runLights files calls).files (latest calls l) ∧
      (∃ led, On (runLights files calls).files led ∨ Blinking (runLights files calls).files led) ∧
      ¬ Mixed (runLights files calls).files) ∧
    (topLit (latest calls) = none → (∃ c ∈ calls, ∃ l, c.1 = .light l) ∨ Dark files →
      Dark (runLights files calls).files) ∧
    (¬ Mixed (runLights files calls).files → ∀ c k,
      ¬ Mixed (perform (runLights files calls).files
        ((lightWrites (runLights files calls).lights c).take k))) ∧
    ∀ c c' : Call, c.1 ≠ c'.1 → topLit (latest (calls ++ [c, c'])) ≠ none →
      ∀ later, runLights files (calls ++ [c, c'] ++ later)
        = runLights files (calls ++ [c', c] ++ later) := by
  refine ⟨fun l hl => ?_, dark_of_topLit files calls, ?_, ?_⟩
  · have hshows := shows_topLit files calls hl
    exact ⟨hshows, hshows.lit (topLit_some hl), hshows.not_mixed⟩
  · exact fun hmixed c k => not_mixed_lightWrites hmixed _ c k
  · intro c c' hne hlit later
    rw [runLights_append files (calls ++ [c, c']), runLights_append files (calls ++ [c', c]),
      runLights_swap files calls hne hlit]

/-- A red notification that blinks, and a green battery: the notification is seen, in either
order. -/
theorem notification_over_battery (files : Files) :
    Shows (runLights files [(.light .battery, ⟨0xff00, 0, 0, 0⟩),
      (.light .notification, ⟨0xff0000, 1, 500, 2000⟩)]).files ⟨0xff0000, 1, 500, 2000⟩ ∧
    runLights files [(.light .battery, ⟨0xff00, 0, 0, 0⟩),
      (.light .notification, ⟨0xff0000, 1, 500, 2000⟩)]
      = runLights files [(.light .notification, ⟨0xff0000, 1, 500, 2000⟩),
        (.light .battery, ⟨0xff00, 0, 0, 0⟩)] := by
  obtain ⟨hseen, -, -, -⟩ := leds_arbitrated files [(.light .battery, ⟨0xff00, 0, 0, 0⟩),
    (.light .notification, ⟨0xff0000, 1, 500, 2000⟩)]
  obtain ⟨-, -, -, hcommute⟩ := leds_arbitrated files []
  obtain ⟨hshows, -, -⟩ := hseen .notification (by decide)
  exact ⟨hshows, hcommute _ _ (by decide) (by decide) []⟩

end CtpCommon.Lights
