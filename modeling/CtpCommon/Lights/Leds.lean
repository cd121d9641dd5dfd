import Mathlib.Data.Int.Notation
import Mathlib.Data.List.Basic
import Mathlib.Logic.Function.Basic

/-!
# The notification light

`lights.c`: three lights share a red and a green LED, each with a file for its brightness and one
for blinking.  Every call of `set_light` writes all four files for the lit light of the highest
priority.

* `setLight` — a call on one of the devices, on the lights and the files; a file holds the last
  command written to it;
* `rendering` — what the files hold for a state;
* `perform_setLightLocked` — **PROVED**: the writes overwrite all that an earlier rendering left;
* `Shows.lit`, `Shows.dark`, `Shows.not_mixed` — **PROVED**: what is to be seen of a state;
* `not_mixed_setLightLocked` — **PROVED**: between two writes nothing is mixed either.
-/

namespace CtpCommon.Lights

/-! ### The files -/

inductive Led where
  | red
  | green
  deriving DecidableEq, Repr

/-- `LCD_FILE`, and for an LED the files `brightness` and `blink`. -/
inductive LightFile where
  | lcd
  | led (l : Led)
  | blink (l : Led)
  deriving DecidableEq, Repr

/-- What is written to a file. -/
inductive Command where
  /-- `"%d\n"` -/
  | int (value : ℤ)
  /-- `"%d %d %d\n"` -/
  | blink (value onMs offMs : ℤ)
  deriving DecidableEq, Repr

/-- The first number of a command. -/
def Command.value : Command → ℤ
  | .int value => value
  | .blink value _ _ => value

abbrev Files := LightFile → Command

abbrev Write := LightFile × Command

def writeInt (path : LightFile) (value : ℤ) : Write := (path, .int value)

def writeBlink (path : LightFile) (value onMs offMs : ℤ) : Write :=
  (path, .blink value onMs offMs)

/-- Some writes, one after another. -/
def perform (files : Files) (writes : List Write) : Files :=
  writes.foldl (fun files w => Function.update files w.1 w.2) files

/-! ### The lights -/

/-- `light_state_t`. -/
structure LightState where
  color : UInt32
  flashMode : ℤ
  flashOnMS : ℤ
  flashOffMS : ℤ
  deriving DecidableEq, Repr

/-- `LIGHT_FLASH_TIMED` and `LIGHT_FLASH_HARDWARE`. -/
def lightFlashTimed : ℤ := 1
def lightFlashHardware : ℤ := 2

/-- `LED_LIGHT_OFF`. -/
def ledLightOff : ℤ := 0

/-- The indices of `g_lights`. -/
inductive Light where
  | attention
  | notification
  | battery
  deriving DecidableEq, Repr

/-- The devices `open_lights` knows. -/
inductive Device where
  | backlight
  | light (l : Light)
  | buttons
  deriving DecidableEq, Repr

abbrev Call := Device × LightState

/-- `g_lights`, and the files. -/
@[ext] structure LightsState where
  lights : Light → LightState
  files : Files

/-- `is_lit`. -/
def isLit (state : LightState) : Bool := state.color &&& 0x00ffffff ≠ 0

def setLightBacklight (state : LightState) : List Write :=
  [writeInt .lcd (state.color &&& 0xff).toNat]

def setLightLocked (state : LightState) : List Write :=
  let blink : ℤ :=
    if state.flashMode = lightFlashTimed ∨ state.flashMode = lightFlashHardware then 1 else 0
  let red : ℤ := ((state.color >>> 16) &&& 0xff).toNat
  let green : ℤ := ((state.color >>> 8) &&& 0xff).toNat
  let blue : ℤ := (state.color &&& 0xff).toNat
  let green := if blue ≠ 0 then blue else green
  let red := if blue ≠ 0 then blue else red
  if blink ≠ 0 then
    [writeInt (.led .red) ledLightOff,
      writeInt (.led .green) ledLightOff,
      writeBlink (.blink .red) (if red ≠ 0 then 1 else 0) state.flashOnMS state.flashOffMS,
      writeBlink (.blink .green) (if green ≠ 0 then 1 else 0) state.flashOnMS state.flashOffMS]
  else
    [writeInt (.blink .red) blink,
      writeInt (.blink .green) blink,
      writeInt (.led .red) ledLightOff,
      writeInt (.led .green) ledLightOff,
      writeInt (.led .red) red,
      writeInt (.led .green) green]

def handleLedPrioritizedLocked (lights : Light → LightState) (state : LightState) : List Write :=
  if isLit (lights .attention) then setLightLocked (lights .attention)
  else if isLit (lights .notification) then setLightLocked (lights .notification)
  else if isLit (lights .battery) then setLightLocked (lights .battery)
  else setLightLocked state

/-- What the lights are after a call, before anything is written. -/
def storeLight (lights : Light → LightState) : Call → Light → LightState
  | (.light l, state) => Function.update lights l state
  | _ => lights

/-- What a call writes. -/
def lightWrites (lights : Light → LightState) : Call → List Write
  | (.backlight, state) => setLightBacklight state
  | (.light l, state) => handleLedPrioritizedLocked (Function.update lights l state) state
  | (.buttons, _) => []

/-- `set_light_backlight`, `set_light_attention`, `set_light_notifications`, `set_light_battery` and
`set_light_noop`. -/
def setLight (s : LightsState) (c : Call) : LightsState where
  lights := storeLight s.lights c
  files := perform s.files (lightWrites s.lights c)

/-- `g_lights` is static. -/
def zeroState : LightState := ⟨0, 0, 0, 0⟩

/-- Some calls, from these files. -/
def runLights (files : Files) (calls : List Call) : LightsState :=
  calls.foldl setLight ⟨fun _ => zeroState, files⟩

/-! ### What is to be seen -/

def blinks (state : LightState) : Prop :=
  state.flashMode = lightFlashTimed ∨ state.flashMode = lightFlashHardware

instance (state : LightState) : Decidable (blinks state) := inferInstanceAs (Decidable (_ ∨ _))

/-- The brightness of an LED; blue stands for both. -/
def brightness (color : UInt32) (l : Led) : ℕ :=
  if color.toNat % 256 ≠ 0 then color.toNat % 256
  else
    match l with
    | .red => color.toNat / 65536 % 256
    | .green => color.toNat / 256 % 256

/-- What the files of an LED hold for a state: its brightness, and its blinking. -/
def rendering (state : LightState) (l : Led) : Command × Command :=
  if blinks state then
    (.int 0, .blink (if brightness state.color l ≠ 0 then 1 else 0) state.flashOnMS
      state.flashOffMS)
  else (.int (brightness state.color l), .int 0)

/-- The files of the LEDs are the rendering of a state. -/
def Shows (files : Files) (state : LightState) : Prop :=
  ∀ l, (files (.led l), files (.blink l)) = rendering state l

/-- An LED is on. -/
def On (files : Files) (l : Led) : Prop := (files (.led l)).value ≠ 0

def Blinking (files : Files) (l : Led) : Prop := (files (.blink l)).value ≠ 0

def Dark (files : Files) : Prop := ∀ l, ¬ On files l ∧ ¬ Blinking files l

/-- A steady and a blinking command are active together. -/
def Mixed (files : Files) : Prop := (∃ l, On files l) ∧ ∃ l, Blinking files l

variable {files files' : Files} {state : LightState} {calls : List Call}

/-! ### Colours -/

theorem toNat_blue (color : UInt32) : (color &&& 0xff).toNat = color.toNat % 256 := by
  have hand := Nat.and_two_pow_sub_one_eq_mod color.toNat 8
  simp only [Nat.reducePow, Nat.reduceSub] at hand
  rw [UInt32.toNat_and]
  exact hand

theorem toNat_green (color : UInt32) :
    ((color >>> 8) &&& 0xff).toNat = color.toNat / 256 % 256 := by
  have hshift := Nat.shiftRight_eq_div_pow color.toNat 8
  simp only [Nat.reducePow] at hshift
  rw [toNat_blue, UInt32.toNat_shiftRight]
  show (color.toNat >>> 8) % 256 = _
  rw [hshift]

theorem toNat_red (color : UInt32) :
    ((color >>> 16) &&& 0xff).toNat = color.toNat / 65536 % 256 := by
  have hshift := Nat.shiftRight_eq_div_pow color.toNat 16
  simp only [Nat.reducePow] at hshift
  rw [toNat_blue, UInt32.toNat_shiftRight]
  show (color.toNat >>> 16) % 256 = _
  rw [hshift]

theorem isLit_iff (state : LightState) : isLit state = true ↔ state.color.toNat % 16777216 ≠ 0 := by
  have hand := Nat.and_two_pow_sub_one_eq_mod state.color.toNat 24
  simp only [Nat.reducePow, Nat.reduceSub] at hand
  unfold isLit
  rw [decide_eq_true_iff, ne_eq, ← UInt32.toNat_inj, UInt32.toNat_and]
  show ¬ state.color.toNat &&& 16777215 = 0 ↔ _
  rw [hand]

theorem brightness_blue {color : UInt32} (h : color.toNat % 256 ≠ 0) (l : Led) :
    brightness color l = color.toNat % 256 := if_pos h

theorem brightness_red {color : UInt32} (h : color.toNat % 256 = 0) :
    brightness color .red = color.toNat / 65536 % 256 := if_neg (not_not.mpr h)

theorem brightness_green {color : UInt32} (h : color.toNat % 256 = 0) :
    brightness color .green = color.toNat / 256 % 256 := if_neg (not_not.mpr h)

/-- **A lit light has a red or a green part**, or a blue one, which is shown as both. -/
theorem isLit_iff_brightness (state : LightState) :
    isLit state = true ↔ ∃ l, brightness state.color l ≠ 0 := by
  rw [isLit_iff]
  by_cases hblue : state.color.toNat % 256 = 0
  · constructor
    · intro hlit
      by_cases hred : state.color.toNat / 65536 % 256 = 0
      · exact ⟨.green, by rw [brightness_green hblue]; omega⟩
      · exact ⟨.red, by rw [brightness_red hblue]; exact hred⟩
    · rintro ⟨l, hl⟩
      cases l with
      | red =>
        rw [brightness_red hblue] at hl
        omega
      | green =>
        rw [brightness_green hblue] at hl
        omega
  · refine ⟨fun _ => ⟨.red, ?_⟩, fun _ => by omega⟩
    rw [brightness_blue hblue]
    exact hblue

/-! ### One rendering -/

/-- **The writes overwrite** all four files, whatever they held. -/
theorem perform_setLightLocked (files : Files) (state : LightState) :
    Shows (perform files (setLightLocked state)) state ∧
      perform files (setLightLocked state) .lcd = files .lcd := by
  have hred : (if ((state.color &&& 0xff).toNat : ℤ) ≠ 0 then ((state.color &&& 0xff).toNat : ℤ)
      else (((state.color >>> 16) &&& 0xff).toNat : ℤ)) = brightness state.color .red := by
    rw [toNat_blue, toNat_red]
    by_cases hblue : state.color.toNat % 256 = 0
    · rw [brightness_red hblue, if_neg (by omega)]
    · rw [brightness_blue hblue, if_pos (by omega)]
  have hgreen : (if ((state.color &&& 0xff).toNat : ℤ) ≠ 0 then ((state.color &&& 0xff).toNat : ℤ)
      else (((state.color >>> 8) &&& 0xff).toNat : ℤ)) = brightness state.color .green := by
    rw [toNat_blue, toNat_green]
    by_cases hblue : state.color.toNat % 256 = 0
    · rw [brightness_green hblue, if_neg (by omega)]
    · rw [brightness_blue hblue, if_pos (by omega)]
  unfold setLightLocked
  simp only [hred, hgreen]
  by_cases hblink : blinks state
  · have hflash : state.flashMode = lightFlashTimed ∨ state.flashMode = lightFlashHardware := hblink
    simp only [if_pos hflash]
    refine ⟨fun l => ?_, rfl⟩
    unfold rendering
    rw [if_pos hblink]
    cases l <;> simp [perform, writeInt, writeBlink, ledLightOff, Function.update]
  · have hflash : ¬ (state.flashMode = lightFlashTimed ∨ state.flashMode = lightFlashHardware) :=
      hblink
    simp only [if_neg hflash]
    refine ⟨fun l => ?_, rfl⟩
    unfold rendering
    rw [if_neg hblink]
    cases l <;> simp [perform, writeInt, ledLightOff, Function.update]

theorem rendering_blinking (h : blinks state) (l : Led) : rendering state l =
    (.int 0, .blink (if brightness state.color l ≠ 0 then 1 else 0) state.flashOnMS
      state.flashOffMS) := if_pos h

theorem rendering_steady (h : ¬ blinks state) (l : Led) :
    rendering state l = (.int (brightness state.color l), .int 0) := if_neg h

/-- What the files hold while a state is shown. -/
theorem Shows.values (h : Shows files state) (l : Led) :
    (blinks state ∧ (files (.led l)).value = 0 ∧
      ((files (.blink l)).value = 0 ↔ brightness state.color l = 0)) ∨
    (¬ blinks state ∧ (files (.blink l)).value = 0 ∧
      ((files (.led l)).value = 0 ↔ brightness state.color l = 0)) := by
  have hfiles := h l
  by_cases hblink : blinks state
  · rw [rendering_blinking hblink] at hfiles
    obtain ⟨hled, hblinking⟩ := Prod.mk.inj hfiles
    refine .inl ⟨hblink, by rw [hled]; rfl, ?_⟩
    rw [hblinking]
    by_cases hzero : brightness state.color l = 0
    · simp [Command.value, hzero]
    · simp [Command.value, hzero]
  · rw [rendering_steady hblink] at hfiles
    obtain ⟨hled, hblinking⟩ := Prod.mk.inj hfiles
    refine .inr ⟨hblink, by rw [hblinking]; rfl, ?_⟩
    rw [hled]
    exact Int.natCast_eq_zero

/-- A lit state is seen. -/
theorem Shows.lit (h : Shows files state) (hlit : isLit state = true) :
    ∃ l, On files l ∨ Blinking files l := by
  obtain ⟨l, hl⟩ := (isLit_iff_brightness state).mp hlit
  refine ⟨l, ?_⟩
  rcases h.values l with ⟨-, -, hblink⟩ | ⟨-, -, hled⟩
  · exact .inr fun hzero => hl (hblink.mp hzero)
  · exact .inl fun hzero => hl (hled.mp hzero)

/-- A state that is not lit is not seen. -/
theorem Shows.dark (h : Shows files state) (hlit : ¬ isLit state = true) : Dark files := by
  intro l
  have hzero : brightness state.color l = 0 := by
    by_contra hne
    exact hlit ((isLit_iff_brightness state).mpr ⟨l, hne⟩)
  rcases h.values l with ⟨-, hled, hblink⟩ | ⟨-, hblink, hled⟩
  · exact ⟨not_not.mpr hled, not_not.mpr (hblink.mpr hzero)⟩
  · exact ⟨not_not.mpr (hled.mpr hzero), not_not.mpr hblink⟩

theorem Shows.not_mixed (h : Shows files state) : ¬ Mixed files := by
  rintro ⟨⟨l, hon⟩, ⟨l', hblinking⟩⟩
  rcases h.values l with ⟨hblink, hled, -⟩ | ⟨hsteady, -, -⟩
  · exact hon hled
  · rcases h.values l' with ⟨hblink', -, -⟩ | ⟨-, hzero, -⟩
    · exact hsteady hblink'
    · exact hblinking hzero

/-! ### Between the writes -/

theorem perform_append (files : Files) (ws ws' : List Write) :
    perform files (ws ++ ws') = perform (perform files ws) ws' := List.foldl_append

/-- A file that is not written keeps its command. -/
theorem perform_other {ws : List Write} {f : LightFile} (h : ∀ w ∈ ws, w.1 ≠ f) :
    perform files ws f = files f := by
  induction ws generalizing files with
  | nil => rfl
  | cons w ws ih =>
    have hrest := @ih (Function.update files w.1 w.2)
      fun w' hw' => h w' (List.mem_cons_of_mem _ hw')
    have hne : f ≠ w.1 := fun heq => h w List.mem_cons_self heq.symm
    rw [Function.update_of_ne hne] at hrest
    exact hrest

/-- Writes of zeros turn nothing on. -/
theorem perform_zeros {ws : List Write} (h : ∀ w ∈ ws, w.2.value = 0) {f : LightFile}
    (hf : (perform files ws f).value ≠ 0) : (files f).value ≠ 0 := by
  induction ws generalizing files with
  | nil => exact hf
  | cons w ws ih =>
    have hrest := @ih (Function.update files w.1 w.2)
      (fun w' hw' => h w' (List.mem_cons_of_mem _ hw')) hf
    by_cases heq : f = w.1
    · rw [heq, Function.update_self] at hrest
      exact absurd (h w List.mem_cons_self) hrest
    · rw [Function.update_of_ne heq] at hrest
      exact hrest

theorem Mixed.of_zeros {ws : List Write} (h : ∀ w ∈ ws, w.2.value = 0)
    (hmixed : Mixed (perform files ws)) : Mixed files := by
  obtain ⟨⟨l, hon⟩, ⟨l', hblinking⟩⟩ := hmixed
  exact ⟨⟨l, perform_zeros h hon⟩, ⟨l', perform_zeros h hblinking⟩⟩

/-- Zeros first, which end one way of being active; then only the other way is written. -/
theorem not_mixed_of_zeros {zeros rest : List Write} (hmixed : ¬ Mixed files)
    (hzeros : ∀ w ∈ zeros, w.2.value = 0)
    (hrest : (∀ l, ¬ On (perform files zeros) l ∧ ∀ w ∈ rest, w.1 ≠ .led l) ∨
      ∀ l, ¬ Blinking (perform files zeros) l ∧ ∀ w ∈ rest, w.1 ≠ .blink l) (k : ℕ) :
    ¬ Mixed (perform files ((zeros ++ rest).take k)) := by
  by_cases hk : k ≤ zeros.length
  · rw [List.take_append_of_le_length hk]
    exact fun h => hmixed (h.of_zeros fun w hw => hzeros w (List.mem_of_mem_take hw))
  · rw [List.take_append, List.take_of_length_le (by omega), perform_append]
    rintro ⟨⟨l, hon⟩, ⟨l', hblinking⟩⟩
    rcases hrest with hsteady | hblink
    · obtain ⟨hoff, hnot⟩ := hsteady l
      unfold On at hon
      rw [perform_other fun w hw => hnot w (List.mem_of_mem_take hw)] at hon
      exact hoff hon
    · obtain ⟨hoff, hnot⟩ := hblink l'
      unfold Blinking at hblinking
      rw [perform_other fun w hw => hnot w (List.mem_of_mem_take hw)] at hblinking
      exact hoff hblinking

/-- **No write of a rendering mixes** a steady and a blinking command. -/
theorem not_mixed_setLightLocked (hmixed : ¬ Mixed files) (state : LightState) (k : ℕ) :
    ¬ Mixed (perform files ((setLightLocked state).take k)) := by
  unfold setLightLocked
  extract_lets blink red green blue green' red'
  split
  · refine @not_mixed_of_zeros files [writeInt (.led .red) ledLightOff,
      writeInt (.led .green) ledLightOff] [_, _] hmixed (by simp [writeInt,
      Command.value, ledLightOff]) (.inl fun l => ⟨?_, by simp [writeBlink]⟩) k
    cases l <;> simp [On, perform, writeInt, Command.value, ledLightOff, Function.update]
  · rename_i hblink
    have hzero : blink = 0 := not_not.mp hblink
    rw [hzero]
    refine @not_mixed_of_zeros files [writeInt (.blink .red) 0, writeInt (.blink .green) 0,
      writeInt (.led .red) ledLightOff, writeInt (.led .green) ledLightOff] [_, _]
      hmixed (by simp [writeInt, Command.value, ledLightOff])
      (.inr fun l => ⟨?_, by simp [writeInt]⟩) k
    cases l <;> simp [Blinking, perform, writeInt, Command.value, Function.update]

end CtpCommon.Lights
