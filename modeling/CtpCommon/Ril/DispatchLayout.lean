import CtpCommon.Ril.Dispatch

/-!
# What each dispatch function needs of its payload

`layout` says, for every dispatch function of the table, which words its payload has to hold and
what is required of their values.  The code tests only some of the statuses; each
`…_decodes` — **PROVED** — shows that it nevertheless runs to its end exactly on the payloads
that hold the layout.  The words of a layout are counted one by one, so a payload cut anywhere
inside them is incomplete; the strings may be anything, unless the code asks for a non-null one.
-/

namespace CtpCommon.Ril

open ReadProg

variable (env : DispatchEnv)

/-! ### The layouts -/

/-- The payloads documented above the five fixed-layout dispatch functions. -/
def simIoFields : List Field :=
  [.word, .word, .string, .word, .word, .word, .string, .string, .string]
def simApduFields : List Field := [.word, .word, .word, .word, .word, .word, .string]
def callForwardFields : List Field := [.word, .word, .word, .word, .string, .word]
def initialAttachApnFields : List Field := [.string, .string, .word, .string, .string]
def simAuthenticationFields : List Field := [.word, .string, .string]

/-- One data profile. -/
def dataProfileFields : List Field :=
  [.word, .string, .string, .word, .string, .string, .word, .word, .word, .word, .word]

/-- A CDMA message: three counts, each followed by as many slots, up to its bound. -/
def cdmaSmsLayout : ReadProg Unit :=
  words 7 <| .byte fun numberOfDigits =>
  words (min numberOfDigits.toNat env.platform.cdmaSmsAddressMax) <|
  words 2 <| .byte fun subNumberOfDigits =>
  words (min subNumberOfDigits.toNat env.platform.cdmaSmsSubaddressMax) <|
  .int fun uBearerDataLen =>
  words (min uBearerDataLen env.platform.cdmaSmsBearerDataMax).toNat <| .done ()

/-- What the payload of a request has to hold. -/
def layout : DispatchFunction → ReadProg Unit
  | .dispatchVoid | .dispatchString => .done ()
  | .dispatchVoiceRadioTech | .dispatchCdmaSubscriptionSource =>
      if env.radioState = .unavailable ∨ env.radioState = .off then .fail else .done ()
  | .dispatchStrings | .dispatchDataCall | .dispatchRaw | .dispatchNVReadItem =>
      words 1 (.done ())
  | .dispatchInts =>
      .int fun count => if count ≠ 0 then words count.toNat (.done ()) else .fail
  | .dispatchRadioPower =>
      .int fun count => if count ≠ 0 then words (max 1 count.toNat) (.done ()) else .fail
  | .dispatchDial =>
      .string fun address => words 1 <|
      if address.isSome then
        if env.version < 3 then .done ()
        else .int fun uusPresent => if uusPresent = 0 then .done () else words 3 (.done ())
      else .fail
  | .dispatchSimIo => skip simIoFields (.done ())
  | .dispatchSimApdu => skip simApduFields (.done ())
  | .dispatchCallForward => skip callForwardFields (.done ())
  | .dispatchSmsWrite | .dispatchNVWriteItem =>
      words 1 <| .string fun text => if text.isSome then .done () else .fail
  | .dispatchSetInitialAttachApn => skip initialAttachApnFields (.done ())
  | .dispatchCdmaSms => cdmaSmsLayout env
  | .dispatchImsSms =>
      .int fun format => words 2 <|
      if format = radioTech3gpp then words 1 (.done ())
      else if format = radioTech3gpp2 then cdmaSmsLayout env
      else .fail
  | .dispatchCdmaSmsAck => words 2 (.done ())
  | .dispatchGsmBrSmsCnf =>
      .int fun num => skip (List.replicate num.toNat (List.replicate 5 .word)).flatten (.done ())
  | .dispatchCdmaBrSmsCnf =>
      .int fun num => skip (List.replicate num.toNat (List.replicate 3 .word)).flatten (.done ())
  | .dispatchRilCdmaSmsWriteArgs =>
      words 9 <| words env.platform.cdmaSmsAddressMax <| words 3 <|
      words env.platform.cdmaSmsSubaddressMax <| words 1 <|
      words env.platform.cdmaSmsBearerDataMax (.done ())
  | .dispatchUiccSubscripton => words 4 (.done ())
  | .dispatchSimAuthentication => skip simAuthenticationFields (.done ())
  | .dispatchDataProfile =>
      .int fun num => skip (List.replicate num.toNat dataProfileFields).flatten (.done ())

/-! ### Each dispatch function decodes its layout -/

/-- The strings at the end of a payload may be anything. -/
theorem strings_decodes {α : Type} (n : ℕ) (g : List (Option CString) → α) :
    Decodes ((readMany n (strdupReadString env)).bind fun ss => .done (g ss)) false
      (.done ()) := by
  have hx : ∀ {f : Option CString → ReadProg α} {k : ReadProg Unit},
      (∀ a b, b = false → Decodes (f a) b k) →
      ∀ b, b = false → Decodes ((strdupReadString env).bind f) b (skip [.string] k) :=
    fun hf b hb => .string fun _ => hf _ b hb
  have h := Decodes.readMany hx (fun as b hb => hb ▸ Decodes.done (g as) ()) n false rfl
  rw [List.flatten_replicate_singleton] at h
  exact .of_strings h

theorem dispatchVoid_decodes : Decodes dispatchVoid false (layout env .dispatchVoid) := .done _ _

theorem dispatchString_decodes :
    Decodes (dispatchString env) false (layout env .dispatchString) :=
  .of_strings (n := 1) <| .string fun _ => .done _ _

theorem dispatchStrings_decodes :
    Decodes (dispatchStrings env) false (layout env .dispatchStrings) := by
  refine .fresh fun count => .check ?_
  split
  · exact .done _ _
  split
  · exact .done _ _
  · exact strings_decodes env _ _

theorem dispatchInts_decodes : Decodes dispatchInts false (layout env .dispatchInts) := by
  refine .fresh fun count => .check ?_
  have hx : ∀ {f : Int → ReadProg Payload} {k : ReadProg Unit},
      (∀ a b, b = false → Decodes (f a) b k) →
      ∀ b, b = false → Decodes ((do let t ← readFresh; checkStatus; return t).bind f) b
        (skip [.word] k) :=
    fun hf b hb => .fresh fun v => .check (hf v false rfl)
  have h := Decodes.readMany hx
    (fun as b hb => hb ▸ Decodes.done (RequestData.ints as, sizeT (wordSize * count)) ())
    count.toNat false rfl
  rw [List.flatten_replicate_singleton] at h
  exact .require rfl h

theorem dispatchRaw_decodes : Decodes dispatchRaw false (layout env .dispatchRaw) :=
  .fresh fun _ => .check (.inplace_done _)

/-- A required string is there iff its UTF-16 form is. -/
theorem isSome_strndup (s16 : Option (List UInt16)) :
    (s16.map env.platform.strndup16to8).isSome = decide (s16.isSome = true) := by
  rw [Option.isSome_map, Bool.decide_eq_true]

theorem dispatchSmsWrite_decodes :
    Decodes (dispatchSmsWrite env) false (layout env .dispatchSmsWrite) :=
  .int fun _ => .string fun s16 => .check <| .require (isSome_strndup env s16) <|
    .of_strings (n := 1) <| .string fun _ => .done _ _

theorem dispatchNVWriteItem_decodes :
    Decodes (dispatchNVWriteItem env) false (layout env .dispatchNVWriteItem) :=
  .int fun _ => .string fun s16 => .check <| .require (isSome_strndup env s16) <| .done _ _

theorem dispatchDial_decodes : Decodes (dispatchDial env) false (layout env .dispatchDial) := by
  refine .string fun s16 => .int fun clir => .check <| .require (isSome_strndup env s16) ?_
  refine .ite (.done _ _) <| .fresh fun uusPresent => .check <| .ite (.done _ _) ?_
  refine .int fun uusType => .int fun uusDcs => .fresh fun len => .check ?_
  split
  · exact .done _ _
  · exact .inplace_done _

theorem dispatchSimIo_decodes :
    Decodes (dispatchSimIo env) false (layout env .dispatchSimIo) :=
  .int fun _ => .int fun _ => .string fun _ => .int fun _ => .int fun _ => .int fun _ =>
    .string fun _ => .string fun _ => .string fun _ => .check (.done _ _)

theorem dispatchSimApdu_decodes :
    Decodes (dispatchSimApdu env) false (layout env .dispatchSimApdu) :=
  .int fun _ => .int fun _ => .int fun _ => .int fun _ => .int fun _ => .int fun _ =>
    .string fun _ => .check (.done _ _)

theorem dispatchCallForward_decodes :
    Decodes (dispatchCallForward env) false (layout env .dispatchCallForward) :=
  .int fun _ => .int fun _ => .int fun _ => .int fun _ => .string fun _ => .int fun _ =>
    .check (.done _ _)

theorem dispatchSetInitialAttachApn_decodes :
    Decodes (dispatchSetInitialAttachApn env) false (layout env .dispatchSetInitialAttachApn) :=
  .string fun _ => .string fun _ => .int fun _ => .string fun _ => .string fun _ =>
    .check (.done _ _)

theorem dispatchSimAuthentication_decodes :
    Decodes (dispatchSimAuthentication env) false (layout env .dispatchSimAuthentication) :=
  .int fun _ => .string fun _ => .string fun _ => .check (.done _ _)

theorem dispatchNVReadItem_decodes :
    Decodes (dispatchNVReadItem env) false (layout env .dispatchNVReadItem) :=
  .int fun _ => .check (.done _ _)

theorem dispatchUiccSubscripton_decodes :
    Decodes (dispatchUiccSubscripton env) false (layout env .dispatchUiccSubscripton) :=
  .int fun _ => .check <| .int fun _ => .check <| .int fun _ => .check <| .int fun _ =>
    .check (.done _ _)

theorem dispatchCdmaSmsAck_decodes :
    Decodes (dispatchCdmaSmsAck env) false (layout env .dispatchCdmaSmsAck) :=
  .int fun _ => .int fun _ => .check (.done _ _)

/-! ### Counted structures -/

theorem dispatchGsmBrSmsCnf_decodes :
    Decodes dispatchGsmBrSmsCnf false (layout env .dispatchGsmBrSmsCnf) := by
  refine .fresh fun num => .check ?_
  refine Decodes.readMany (B := fun _ => True) (fun hf b _ => ?_) (fun as b _ => ?_) _ _ trivial
  · exact .int fun _ => .int fun _ => .int fun _ => .int fun _ => .int fun _ => hf _ _ trivial
  · exact .check (.done _ _)

theorem dispatchCdmaBrSmsCnf_decodes :
    Decodes dispatchCdmaBrSmsCnf false (layout env .dispatchCdmaBrSmsCnf) := by
  refine .fresh fun num => .check ?_
  refine Decodes.readMany (B := fun _ => True) (fun hf b _ => ?_) (fun as b _ => ?_) _ _ trivial
  · exact .int fun _ => .int fun _ => .int fun _ => hf _ _ trivial
  · exact .check (.done _ _)

theorem dispatchDataProfile_decodes :
    Decodes (dispatchDataProfile env) false (layout env .dispatchDataProfile) := by
  refine .fresh fun num => .check ?_
  refine Decodes.readMany (B := fun _ => True) (fun hf b _ => ?_) (fun as b _ => ?_) _ _ trivial
  · exact .int fun _ => .string fun _ => .string fun _ => .int fun _ => .string fun _ =>
      .string fun _ => .int fun _ => .int fun _ => .int fun _ => .int fun _ => .int fun _ =>
      hf _ _ trivial
  · exact .check (.done _ _)

/-- The message, whatever is done with it afterwards. -/
theorem constructCdmaSms_decodes {α : Type} (g : CdmaSmsMessage → α) (b : Bool) :
    Decodes ((constructCdmaSms env).bind fun rcsm => .done (g rcsm)) b (cdmaSmsLayout env) := by
  refine .int fun _ => .byte_word fun _ => .int fun _ => .int fun _ => .int fun _ =>
    .int fun _ => .int fun _ => .byte fun numberOfDigits => .assoc (x := readMany _ readByte) ?_
  refine .readMany_byte (fun digits _ => ?_) _
  refine .int fun _ => .byte_word fun _ => .byte fun subNumberOfDigits =>
    .assoc (x := readMany _ readByte) ?_
  refine .readMany_byte (fun subDigits _ => ?_) _
  refine .int fun uBearerDataLen => .assoc (x := readMany _ readByte) ?_
  exact .readMany_byte (fun aBearerData _ => .check (.done _ _)) _

theorem dispatchCdmaSms_decodes :
    Decodes (dispatchCdmaSms env) false (layout env .dispatchCdmaSms) :=
  constructCdmaSms_decodes env _ _

theorem dispatchImsSms_decodes :
    Decodes (dispatchImsSms env) false (layout env .dispatchImsSms) := by
  refine .int fun format => .check <| .byte_word fun retry => .check <| .fresh fun messageRef =>
    .check <| .ite ?_ <| .ite (constructCdmaSms_decodes env _ _) .fail
  refine .fresh fun countStrings => .check ?_
  split
  · exact .done _ _
  split
  · exact .done _ _
  · exact strings_decodes env _ _

theorem dispatchRilCdmaSmsWriteArgs_decodes :
    Decodes (dispatchRilCdmaSmsWriteArgs env) false (layout env .dispatchRilCdmaSmsWriteArgs) := by
  refine .int fun _ => .int fun _ => .byte_word fun _ => .int fun _ => .int fun _ =>
    .int fun _ => .int fun _ => .int fun _ => .byte_word fun numberOfDigits => ?_
  refine .readMany_byte (fun digits _ => ?_) _
  refine .int fun _ => .byte_word fun _ => .byte_word fun subNumberOfDigits => ?_
  refine .readMany_byte (fun subDigits _ => ?_) _
  refine .int fun uBearerDataLen => ?_
  exact .readMany_byte (fun aBearerData _ => .check (.done _ _)) _

end CtpCommon.Ril
