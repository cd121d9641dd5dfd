import CtpCommon.Lib.Decimal
import CtpCommon.Ril.Requests

/-!
# The arguments of a debug command

A client of the debug port sends a number of arguments, then each argument behind its length.
libril checks that every `recv` gives what it has asked for, and nothing else: the number and the
lengths are used as they come, and the commands take `args[0]` and `args[1]` for granted.

* `Peer` — the client's bytes, and how many of them each `recv` finds;
* `debugCallback` — what is allocated, read, freed, closed and issued, in order;
* `Safe` — what is to hold of it;
* `readArguments_done`, `readArguments_given` — **PROVED**: the loop comes to its end iff the client
  gives all arguments;
* `given_of_late` — **PROVED**: what issues a command or closes its descriptor has been given all
  arguments it needs;
* `debugCallback_safe_iff` — **PROVED**: a call is safe iff the client gives at least one argument,
  every one of them, and a second one where the first asks for it;
* `half_a_number` — a client that closes after two bytes keeps a descriptor open.
-/

namespace CtpCommon.Ril.Debug

open Parcel (wordOf wordBytes)
open Decimal (atoi)

/-! ### The client -/

/-- The bytes the client sends before it closes, and how many of them each `recv` finds at most,
unless it fails. -/
structure Peer where
  input : List UInt8
  turns : ℕ → Option ℕ

def Peer.next (p : Peer) (n : ℕ) : Peer := ⟨p.input.drop n, fun i => p.turns (i + 1)⟩

/-- `recv(acceptFD, buf, size, 0)`. -/
def Peer.recv (p : Peer) (size : ℕ) : Option (List UInt8) × Peer :=
  match p.turns 0 with
  | none => (none, p.next 0)
  | some k => (some (p.input.take (min k size)), p.next (min k size))

/-- The bytes, unless `recv(..) != size`. -/
def Peer.recvAll (p : Peer) (size : ℕ) : Option (List UInt8 × Peer) :=
  match p.recv size with
  | (some bs, q) => if bs.length = size then some (bs, q) else none
  | (none, _) => none

/-- The next `recv` that asks for so many bytes gives these. -/
def Peer.Gives (p : Peer) (bs : List UInt8) : Prop :=
  bs <+: p.input ∧ ∃ k, p.turns 0 = some k ∧ bs.length ≤ k

theorem recvAll_of_gives {p : Peer} {bs : List UInt8} (h : p.Gives bs) :
    p.recvAll bs.length = some (bs, p.next bs.length) := by
  obtain ⟨hbytes, k, hk, hle⟩ := h
  have htake : p.input.take bs.length = bs := (List.prefix_iff_eq_take.mp hbytes).symm
  unfold Peer.recvAll Peer.recv
  rw [hk]
  simp only [Nat.min_eq_right hle, htake, if_true]

theorem gives_of_recvAll {p q : Peer} {size : ℕ} {bs : List UInt8}
    (h : p.recvAll size = some (bs, q)) :
    bs.length = size ∧ p.Gives bs ∧ q = p.next bs.length := by
  unfold Peer.recvAll Peer.recv at h
  cases hk : p.turns 0 with
  | none =>
    rw [hk] at h
    cases h
  | some k =>
    rw [hk] at h
    simp only at h
    split at h
    · rename_i hlength
      obtain ⟨rfl, rfl⟩ := Prod.mk.inj (Option.some.inj h)
      have hle := List.length_take_le (min k size) p.input
      have hmin : min k size = size := by omega
      rw [hmin] at hlength ⊢
      refine ⟨hlength, ⟨List.take_prefix _ _, k, hk, by omega⟩, ?_⟩
      rw [hlength]
    · cases h

/-! ### What is done -/

inductive DebugEvent where
  /-- `args = malloc(sizeof(char *) * number)`. -/
  | mallocArgs (number : Int)
  /-- `args[k] = malloc(len + 1)`. -/
  | malloc (k : ℕ) (len : Int)
  /-- `args[k]` is read. -/
  | readArgs (k : ℕ)
  /-- All bytes of `args[k]` have been received. -/
  | received (k : ℕ)
  | free (k : ℕ)
  | freeArgs
  | issueLocalRequest (request : RequestCode) (data : RequestData) (len : ℕ)
  | unsolResponse (unsolResponse : ℕ)
  /-- `s_ril_param_socket.fdCommand` is closed, and set to `-1`. -/
  | closeCommand (fdCommand : Int)
  | closeAccept
  deriving DecidableEq, Repr

/-- A call returns, or uses memory that is not its own; what it does then is not said. -/
inductive DebugExit where
  | returned
  | outside
  deriving DecidableEq, Repr

structure DebugRun where
  events : List DebugEvent
  exit : DebugExit
  deriving DecidableEq, Repr

/-- What the commands find: the connection, the platform, and `dialData.uusInfo`, which is not
set. -/
structure DebugEnv where
  platform : Platform
  fdCommand : Int
  uusInfo : Option UusInfo

def freeDebugCallbackArgs (number : ℕ) : List DebugEvent :=
  ((List.range number).flatMap fun i => [.readArgs i, .free i]) ++ [.freeArgs]

/-- The turn that has read `args[i]`.  The last argument is the SIM too, which is always the
first with one SIM. -/
def turn (number i : ℕ) (bytes : List UInt8) : List DebugEvent :=
  [.malloc i bytes.length, .readArgs i, .received i] ++
    if i + 1 = number then [.readArgs i] else []

/-- How the loop ends: with the arguments, or with the exit of the call. -/
abbrev LoopEnd := Except DebugExit (List (List UInt8))

/-- The loop, with so many turns to go and these arguments read.  `entries` pointers fit the
array. -/
def readArguments (number entries : ℕ) :
    ℕ → List (List UInt8) → Peer → List DebugEvent × LoopEnd
  | 0, args, _ => ([], .ok args)
  | n + 1, args, peer =>
      match peer.recvAll 4 with
      | none => (freeDebugCallbackArgs args.length, .error .returned)
      | some (word, peer) =>
          let len := wordOf word
          -- `recv` with a negative length, and a pointer behind the array
          if len < 0 ∨ entries ≤ args.length then
            ([.malloc args.length len], .error .outside)
          else
            match peer.recvAll len.toNat with
            | none =>
                (.malloc args.length len :: .readArgs args.length ::
                  freeDebugCallbackArgs args.length, .error .returned)
            | some (bytes, peer) =>
                let rest := readArguments number entries n (args ++ [bytes]) peer
                (turn number args.length bytes ++ rest.1, rest.2)

/-! ### The commands -/

/-- The entry of `s_commands` with a number. -/
def requestOf (number : ℕ) (h : 1 ≤ number ∧ number < 130) : RequestCode := ⟨number, h.1, h.2⟩

def resetRadio : RequestCode := requestOf 58 (by decide)
def radioPower : RequestCode := requestOf 23 (by decide)
def oemHookRaw : RequestCode := requestOf 59 (by decide)
def setupDataCall : RequestCode := requestOf 27 (by decide)
def deactivateDataCall : RequestCode := requestOf 41 (by decide)
def dial : RequestCode := requestOf 10 (by decide)
def answer : RequestCode := requestOf 40 (by decide)
def hangup : RequestCode := requestOf 12 (by decide)

def rilUnsolResponseVoiceNetworkStateChanged : ℕ := 1002

/-- `qxdm_data`, for a mode. -/
def qxdmData (mode : Int) : RequestData := .ints [65536, 16, mode, 32, 0, 8]

/-- The text of an argument, which ends at a NUL. -/
def textOf (bytes : List UInt8) : CString := bytes.takeWhile (· ≠ 0)

variable (env : DebugEnv)

/-- A command that passes `args[1]`, which need not be there. -/
def passSecond (args : List (List UInt8)) (issue : CString → DebugEvent) : DebugRun :=
  match args[1]? with
  | some bytes => ⟨[.readArgs 1, issue (textOf bytes)], .returned⟩
  | none => ⟨[.readArgs 1], .outside⟩

/-- `switch (atoi(args[0]))`. -/
def debugCommand (args : List (List UInt8)) (command : Int) : DebugRun :=
  if command = 0 then ⟨[.issueLocalRequest resetRadio .null 0], .returned⟩
  else if command = 1 then
    ⟨.issueLocalRequest radioPower (.ints [0]) wordSize ::
      if 0 < env.fdCommand then [.closeCommand env.fdCommand] else [], .returned⟩
  else if command = 2 then
    ⟨[.unsolResponse rilUnsolResponseVoiceNetworkStateChanged], .returned⟩
  else if command = 3 then
    ⟨[.issueLocalRequest oemHookRaw (qxdmData 1) (6 * wordSize)], .returned⟩
  else if command = 4 then
    ⟨[.issueLocalRequest oemHookRaw (qxdmData 0) (6 * wordSize)], .returned⟩
  else if command = 5 then
    ⟨[.issueLocalRequest radioPower (.ints [1]) wordSize,
      .issueLocalRequest setNetworkSelectionAutomatic .null 0], .returned⟩
  else if command = 6 then
    passSecond args fun apn => .issueLocalRequest setupDataCall (.strings [some apn]) wordSize
  else if command = 7 then
    ⟨[.issueLocalRequest deactivateDataCall (.strings [some [49]]) wordSize], .returned⟩
  else if command = 8 then
    passSecond args fun address =>
      .issueLocalRequest dial (.dial ⟨some address, 0, env.uusInfo⟩) (env.platform.sizeOf .dial)
  else if command = 9 then ⟨[.issueLocalRequest answer .null 0], .returned⟩
  else if command = 10 then ⟨[.issueLocalRequest hangup (.ints [1]) wordSize], .returned⟩
  else ⟨[], .returned⟩

/-- What follows the loop.  `args[0]` is not there when no argument was announced. -/
def runCommand (args : List (List UInt8)) : DebugRun :=
  match args with
  | [] => ⟨[.readArgs 0], .outside⟩
  | first :: _ =>
      let run := debugCommand env args (atoi (textOf first))
      match run.exit with
      | .returned =>
          ⟨.readArgs 0 :: (run.events ++ freeDebugCallbackArgs args.length ++ [.closeAccept]),
            .returned⟩
      | .outside => ⟨.readArgs 0 :: run.events, .outside⟩

/-- The call from the array on, with the number of arguments and what the loop has done. -/
def callWith (number : Int) : List DebugEvent × LoopEnd → DebugRun
  | (events, .error exit) => ⟨.mallocArgs number :: events, exit⟩
  | (events, .ok args) =>
      ⟨.mallocArgs number :: (events ++ (runCommand env args).events), (runCommand env args).exit⟩

/-- `debugCallback`, on an accepted connection. -/
def debugCallback (peer : Peer) : DebugRun :=
  match peer.recvAll 4 with
  | none => ⟨[], .returned⟩
  | some (word, peer) =>
      let number := wordOf word
      callWith env number (readArguments number.toNat (sizeT (wordSize * number) / wordSize)
        number.toNat [] peer)

/-! ### Safety -/

/-- The commands: what they issue, and the connection they close. -/
def DebugEvent.IsCommand : DebugEvent → Prop
  | .issueLocalRequest .. | .unsolResponse _ | .closeCommand _ => True
  | _ => False

/-- **A call is safe**: it allocates for numbers that are not negative, reads the arguments it has
announced, closes its descriptor once and frees what it has allocated for the arguments once, and
issues a command only when all arguments have been received. -/
structure Safe (r : DebugRun) : Prop where
  number : ∀ n, .mallocArgs n ∈ r.events → 0 ≤ n
  lengths : ∀ k len, .malloc k len ∈ r.events → 0 ≤ len
  reads : ∀ n (k : ℕ), .mallocArgs n ∈ r.events → .readArgs k ∈ r.events → (k : Int) < n
  closed : r.events.count .closeAccept = 1
  freed : ∀ k len, .malloc k len ∈ r.events → r.events.count (.free k) = 1
  commands : ∀ before e after, r.events = before ++ e :: after → e.IsCommand →
    ∃ n, .mallocArgs n ∈ before ∧ ∀ k : ℕ, (k : Int) < n → .received k ∈ before

/-- The client gives each argument behind its length. -/
def GivesEach : List (List UInt8) → Peer → Prop
  | [], _ => True
  | bytes :: rest, p =>
      bytes.length < 2147483648 ∧ p.Gives (wordBytes bytes.length) ∧ (p.next 4).Gives bytes ∧
        GivesEach rest ((p.next 4).next bytes.length)

/-- The client gives the number of its arguments, and all of them. -/
def GivesArguments (args : List (List UInt8)) (p : Peer) : Prop :=
  p.Gives (wordBytes args.length) ∧ GivesEach args (p.next 4)

/-- The commands that take a second argument. -/
def takesSecond (command : Int) : Prop := command = 6 ∨ command = 8

/-- There is a first argument, a second one if the command takes it, and an array for all. -/
structure Proper (args : List (List UInt8)) : Prop where
  nonempty : args ≠ []
  short : args.length < 1073741824
  second : ∀ first ∈ args.head?, takesSecond (atoi (textOf first)) → 2 ≤ args.length

/-! ### The loop -/

/-- What the turns do that read these arguments, from the `i`th on. -/
def turns (number : ℕ) : ℕ → List (List UInt8) → List DebugEvent
  | _, [] => []
  | i, bytes :: rest => turn number i bytes ++ turns number (i + 1) rest

theorem wordOf_length {n : ℕ} (h : n < 2147483648) : wordOf (wordBytes n) = n :=
  Parcel.wordOf_wordBytes ⟨by omega, by omega⟩

theorem wordBytes_of_length {word : List UInt8} (h : word.length = 4) :
    wordBytes (wordOf word) = word := by
  match word, h with
  | [a, b, c, d], _ => exact Parcel.wordBytes_wordOf a b c d

/-- **The client gives the arguments**: the loop reads them. -/
theorem readArguments_done (number entries : ℕ) (given : List (List UInt8)) :
    ∀ (args : List (List UInt8)) (peer : Peer), GivesEach given peer →
      args.length + given.length ≤ entries →
      readArguments number entries given.length args peer
        = (turns number args.length given, .ok (args ++ given)) := by
  induction given with
  | nil =>
    intro args peer _ _
    rw [List.append_nil]
    rfl
  | cons bytes rest ih =>
    rintro args peer ⟨hshort, hlength, hbytes, hrest⟩ hroom
    rw [List.length_cons] at hroom
    have hword := recvAll_of_gives hlength
    have hall := recvAll_of_gives hbytes
    have hlen := wordOf_length hshort
    rw [Parcel.length_wordBytes] at hword
    have hloop := ih (args ++ [bytes]) _ hrest (by
      rw [List.length_append, List.length_singleton]
      omega)
    rw [List.length_append, List.length_singleton, List.append_assoc] at hloop
    rw [List.length_cons]
    simp only [readArguments, hword, hlen, Int.toNat_natCast, hall]
    rw [if_neg (by omega), hloop]
    rfl

/-- **The loop comes to its end**: the client has given the arguments. -/
theorem readArguments_given {number entries n : ℕ} {args all : List (List UInt8)} {peer : Peer}
    (h : (readArguments number entries n args peer).2 = .ok all) :
    ∃ given, all = args ++ given ∧ given.length = n ∧ GivesEach given peer ∧
      (n = 0 ∨ args.length + n ≤ entries) := by
  induction n generalizing args peer with
  | zero =>
    obtain rfl := Except.ok.inj h
    exact ⟨[], (List.append_nil _).symm, rfl, trivial, .inl rfl⟩
  | succ n ih =>
    unfold readArguments at h
    cases hword : peer.recvAll 4 with
    | none =>
      rw [hword] at h
      cases h
    | some r =>
      obtain ⟨word, peer₁⟩ := r
      rw [hword] at h
      obtain ⟨hfour, hgives, rfl⟩ := gives_of_recvAll hword
      simp only at h
      split at h
      · cases h
      · rename_i hlen
        obtain ⟨hnonneg, hroom⟩ := not_or.mp hlen
        cases hbytes : (peer.next word.length).recvAll (wordOf word).toNat with
        | none =>
          rw [hbytes] at h
          cases h
        | some r =>
          obtain ⟨bytes, peer₂⟩ := r
          rw [hbytes] at h
          obtain ⟨hlength, hgiven, rfl⟩ := gives_of_recvAll hbytes
          obtain ⟨given, hall, hn, heach, hentries⟩ := ih h
          have hint := Parcel.isInt32_wordOf word
          have hcount : (bytes.length : Int) = wordOf word := by omega
          have hback : wordBytes bytes.length = word := by
            rw [hcount]
            exact wordBytes_of_length hfour
          rw [List.length_append, List.length_singleton] at hentries
          rw [hfour] at hgiven heach
          refine ⟨bytes :: given, ?_, by rw [List.length_cons, hn], ⟨?_, ?_, hgiven, heach⟩, ?_⟩
          · rw [hall, List.append_assoc]
            rfl
          · obtain ⟨-, hmax⟩ := hint
            omega
          · rw [hback]
            exact hgives
          · omega

/-! ### What the events are -/

theorem mem_turns {number : ℕ} {given : List (List UInt8)} {e : DebugEvent} :
    ∀ {i : ℕ}, e ∈ turns number i given → ∃ k, k < i + given.length ∧
      (e = .readArgs k ∨ e = .received k ∨ ∃ bytes : List UInt8, e = .malloc k bytes.length) := by
  induction given with
  | nil => exact fun h => absurd h List.not_mem_nil
  | cons bytes rest ih =>
    intro i h
    rw [List.length_cons]
    rcases List.mem_append.mp h with hturn | hrest
    · refine ⟨i, by omega, ?_⟩
      rcases List.mem_append.mp hturn with hfirst | hlast
      · simp only [List.mem_cons, List.not_mem_nil, or_false] at hfirst
        rcases hfirst with rfl | rfl | rfl
        · exact .inr (.inr ⟨bytes, rfl⟩)
        · exact .inl rfl
        · exact .inr (.inl rfl)
      · split at hlast
        · exact .inl (List.mem_singleton.mp hlast)
        · cases hlast
    · obtain ⟨k, hk, he⟩ := ih hrest
      exact ⟨k, by omega, he⟩

theorem received_mem_turns {number : ℕ} {given : List (List UInt8)} :
    ∀ {i k : ℕ}, i ≤ k → k < i + given.length → .received k ∈ turns number i given := by
  induction given with
  | nil =>
    intro i k hle hlt
    rw [List.length_nil] at hlt
    omega
  | cons bytes rest ih =>
    intro i k hle hlt
    rw [List.length_cons] at hlt
    by_cases hk : k = i
    · subst hk
      exact List.mem_append_left _ (List.mem_append_left _ (by simp))
    · exact List.mem_append_right _ (ih (by omega) (by omega))

theorem mem_freeDebugCallbackArgs {n : ℕ} {e : DebugEvent} (h : e ∈ freeDebugCallbackArgs n) :
    e = .freeArgs ∨ ∃ k < n, e = .readArgs k ∨ e = .free k := by
  rcases List.mem_append.mp h with hargs | hlast
  · obtain ⟨k, hk, he⟩ := List.mem_flatMap.mp hargs
    simp only [List.mem_cons, List.not_mem_nil, or_false] at he
    exact .inr ⟨k, List.mem_range.mp hk, he⟩
  · exact .inl (List.mem_singleton.mp hlast)

/-- Every argument is freed once. -/
theorem count_free {n k : ℕ} (h : k < n) : (freeDebugCallbackArgs n).count (.free k) = 1 := by
  have hrange : ∀ n, ((List.range n).flatMap fun i =>
      [DebugEvent.readArgs i, .free i]).count (.free k) = if k < n then 1 else 0 := by
    intro n
    induction n with
    | zero => rfl
    | succ n ih =>
      rw [List.range_succ, List.flatMap_append, List.count_append, ih, List.flatMap_singleton]
      by_cases hk : k = n
      · subst hk
        simp
      · have hlt : k < n + 1 ↔ k < n := by omega
        simp [Ne.symm hk, hlt]
  unfold freeDebugCallbackArgs
  rw [List.count_append, hrange, if_pos h]
  rfl

/-- A command issues commands, and reads `args[1]` only if it takes it; it issues none unless it
returns, and returns iff what it takes is there. -/
structure Follows (args : List (List UInt8)) (command : Int) (r : DebugRun) : Prop where
  events : ∀ e ∈ r.events, e.IsCommand ∨ e = .readArgs 1 ∧ takesSecond command
  issues : ∀ e ∈ r.events, e.IsCommand → r.exit = .returned
  exit : r.exit = .returned ↔ (takesSecond command → 2 ≤ args.length)

theorem follows_plain {args : List (List UInt8)} {command : Int} {events : List DebugEvent}
    (hplain : ¬ takesSecond command) (h : ∀ e ∈ events, e.IsCommand) :
    Follows args command ⟨events, .returned⟩ where
  events e he := .inl (h e he)
  issues _ _ _ := rfl
  exit := iff_of_true rfl fun htakes => absurd htakes hplain

theorem follows_passSecond {args : List (List UInt8)} {command : Int}
    {issue : CString → DebugEvent} (htakes : takesSecond command)
    (hissue : ∀ text, (issue text).IsCommand) : Follows args command (passSecond args issue) := by
  unfold passSecond
  rcases h : args[1]? with _ | bytes
  · have hlength := List.getElem?_eq_none_iff.mp h
    refine ⟨fun e he => .inr ⟨List.mem_singleton.mp he, htakes⟩, fun e he hcommand => ?_,
      iff_of_false (by simp) fun hsecond => ?_⟩
    · rw [List.mem_singleton.mp he] at hcommand
      exact absurd hcommand id
    · have htwo := hsecond htakes
      omega
  · obtain ⟨hlength, -⟩ := List.getElem?_eq_some_iff.mp h
    refine ⟨fun e he => ?_, fun _ _ _ => rfl, iff_of_true rfl fun _ => hlength⟩
    rcases List.mem_cons.mp he with rfl | he
    · exact .inr ⟨rfl, htakes⟩
    · rw [List.mem_singleton.mp he]
      exact .inl (hissue _)

/-- **Every command.** -/
theorem debugCommand_follows (env : DebugEnv) (args : List (List UInt8)) (command : Int) :
    Follows args command (debugCommand env args command) := by
  unfold debugCommand
  by_cases hsecond : takesSecond command
  · rcases hsecond with rfl | rfl
    · show Follows args 6 (passSecond args fun apn =>
        .issueLocalRequest setupDataCall (.strings [some apn]) wordSize)
      exact follows_passSecond (.inl rfl) fun _ => trivial
    · show Follows args 8 (passSecond args fun address =>
        .issueLocalRequest dial (.dial ⟨some address, 0, env.uusInfo⟩) (env.platform.sizeOf .dial))
      exact follows_passSecond (.inr rfl) fun _ => trivial
  · have hsix : command ≠ 6 := fun h => hsecond (.inl h)
    have height : command ≠ 8 := fun h => hsecond (.inr h)
    rw [if_neg hsix, if_neg height]
    repeat' split
    all_goals exact follows_plain hsecond (by simp [DebugEvent.IsCommand])

/-! ### Safe calls -/

section

variable {env : DebugEnv} {peer : Peer} {args : List (List UInt8)}

/-- The first argument, as a command. -/
def commandOf (args : List (List UInt8)) : Int := atoi (textOf (args.headD []))

theorem Proper.returned (h : Proper args) :
    (debugCommand env args (commandOf args)).exit = .returned := by
  refine (debugCommand_follows env args (commandOf args)).exit.mpr fun htakes => ?_
  obtain ⟨first, rest, rfl⟩ := List.exists_cons_of_ne_nil h.nonempty
  exact h.second first rfl htakes

/-- What is done with arguments that are given and proper. -/
def safeEvents (env : DebugEnv) (args : List (List UInt8)) : List DebugEvent :=
  .mallocArgs args.length :: turns args.length 0 args ++ (.readArgs 0 ::
    ((debugCommand env args (commandOf args)).events ++ freeDebugCallbackArgs args.length ++
      [.closeAccept]))

theorem entries_of_short {n : ℕ} (h : n < 1073741824) :
    sizeT (wordSize * (n : Int)) / wordSize = n := by
  unfold sizeT wordSize
  omega

/-- **The client gives proper arguments**: the command is executed. -/
theorem debugCallback_given (hgiven : GivesArguments args peer) (hproper : Proper args) :
    debugCallback env peer = ⟨safeEvents env args, .returned⟩ := by
  obtain ⟨hnumber, heach⟩ := hgiven
  have hshort := hproper.short
  have hword := recvAll_of_gives hnumber
  rw [Parcel.length_wordBytes] at hword
  have hloop := readArguments_done args.length args.length args [] (peer.next 4) heach
    (by rw [List.length_nil, Nat.zero_add])
  have hrun : runCommand env args = ⟨.readArgs 0 ::
      ((debugCommand env args (commandOf args)).events ++ freeDebugCallbackArgs args.length ++
        [.closeAccept]), .returned⟩ := by
    obtain ⟨first, rest, rfl⟩ := List.exists_cons_of_ne_nil hproper.nonempty
    have hreturned := @Proper.returned env _ hproper
    unfold commandOf at hreturned ⊢
    simp only [runCommand, List.headD_cons] at hreturned ⊢
    rw [hreturned]
  unfold debugCallback
  rw [hword]
  show callWith env (wordOf (wordBytes args.length)) _ = _
  rw [wordOf_length (by omega), Int.toNat_natCast, entries_of_short hshort, hloop]
  show (⟨_ :: (_ ++ (runCommand env args).events), (runCommand env args).exit⟩ : DebugRun) = _
  rw [hrun]
  rfl

/-- What is done behind the loop: the commands, and the close. -/
def Late (e : DebugEvent) : Prop := e.IsCommand ∨ e = .closeAccept

theorem not_late_free {n : ℕ} {e : DebugEvent} (h : e ∈ freeDebugCallbackArgs n) : ¬ Late e := by
  rcases mem_freeDebugCallbackArgs h with rfl | ⟨k, -, rfl | rfl⟩ <;>
    simp [Late, DebugEvent.IsCommand]

theorem not_late_turns {number i : ℕ} {given : List (List UInt8)} {e : DebugEvent}
    (h : e ∈ turns number i given) : ¬ Late e := by
  obtain ⟨k, -, rfl | rfl | ⟨bytes, rfl⟩⟩ := mem_turns h <;> simp [Late, DebugEvent.IsCommand]

/-- **The loop issues no command and does not close the descriptor**, however it ends. -/
theorem not_late_loop {number entries n : ℕ} {args : List (List UInt8)} {peer : Peer}
    {e : DebugEvent} (h : e ∈ (readArguments number entries n args peer).1) : ¬ Late e := by
  induction n generalizing args peer with
  | zero => cases h
  | succ n ih =>
    unfold readArguments at h
    cases hword : peer.recvAll 4 with
    | none =>
      rw [hword] at h
      exact not_late_free h
    | some r =>
      rw [hword] at h
      simp only at h
      split at h
      · rw [List.mem_singleton.mp h]
        simp [Late, DebugEvent.IsCommand]
      · cases hbytes : r.2.recvAll (wordOf r.1).toNat with
        | none =>
          rw [hbytes] at h
          rcases List.mem_cons.mp h with rfl | h
          · simp [Late, DebugEvent.IsCommand]
          · rcases List.mem_cons.mp h with rfl | h
            · simp [Late, DebugEvent.IsCommand]
            · exact not_late_free h
        | some r' =>
          rw [hbytes] at h
          rcases List.mem_append.mp h with h | h
          · exact @not_late_turns number args.length [r'.1] e (List.mem_append_left _ h)
          · exact ih h

/-- What is done behind the loop is done with a command that has its arguments. -/
theorem proper_of_late (hshort : args.length < 1073741824) {e : DebugEvent} (hlate : Late e)
    (h : e ∈ (runCommand env args).events) : Proper args := by
  cases args with
  | nil =>
    rw [List.mem_singleton.mp h] at hlate
    exact absurd hlate (by simp [Late, DebugEvent.IsCommand])
  | cons first rest =>
    obtain ⟨hevents, hissues, hexit⟩ :=
      debugCommand_follows env (first :: rest) (atoi (textOf first))
    refine ⟨List.cons_ne_nil _ _, hshort, fun f hf => ?_⟩
    obtain rfl := Option.some.inj hf
    refine hexit.mp ?_
    cases hcase : (debugCommand env (first :: rest) (atoi (textOf first))).exit with
    | returned => rfl
    | outside =>
      unfold runCommand at h
      simp only [hcase] at h
      rcases List.mem_cons.mp h with rfl | h
      · exact absurd hlate (by simp [Late, DebugEvent.IsCommand])
      · rcases hevents e h with hcommand | ⟨rfl, -⟩
        · exact hcase.symm.trans (hissues e h hcommand)
        · exact absurd hlate (by simp [Late, DebugEvent.IsCommand])

/-- A number of arguments that the array can hold, although its size is a `size_t`. -/
theorem short_of_entries {n : ℕ} (hmax : n < 2147483648) (hpos : 0 < n)
    (h : n ≤ sizeT (wordSize * (n : Int)) / wordSize) : n < 1073741824 := by
  unfold sizeT wordSize at h
  omega

/-- **What issues a command or closes its descriptor** has been given proper arguments. -/
theorem given_of_late {e : DebugEvent} (hlate : Late e)
    (h : e ∈ (debugCallback env peer).events) : ∃ args, GivesArguments args peer ∧ Proper args := by
  unfold debugCallback at h
  cases hword : peer.recvAll 4 with
  | none =>
    rw [hword] at h
    cases h
  | some r =>
    obtain ⟨word, peer₁⟩ := r
    rw [hword] at h
    obtain ⟨hfour, hgives, rfl⟩ := gives_of_recvAll hword
    obtain ⟨hmin, hmax⟩ := Parcel.isInt32_wordOf word
    have hnumber : e ≠ .mallocArgs (wordOf word) := by
      rintro rfl
      exact absurd hlate (by simp [Late, DebugEvent.IsCommand])
    simp only at h
    have hloop : e ∉ (readArguments (wordOf word).toNat
        (sizeT (wordSize * wordOf word) / wordSize) (wordOf word).toNat []
        (peer.next word.length)).1 := fun hmem => not_late_loop hmem hlate
    rcases hend : readArguments (wordOf word).toNat (sizeT (wordSize * wordOf word) / wordSize)
      (wordOf word).toNat [] (peer.next word.length) with ⟨events, exit | args⟩
    · rw [hend] at h hloop
      exact absurd ((List.mem_cons.mp h).resolve_left hnumber) hloop
    · rw [hend] at h hloop
      have hrun : e ∈ (runCommand env args).events :=
        (List.mem_append.mp ((List.mem_cons.mp h).resolve_left hnumber)).resolve_left hloop
      obtain ⟨given, hall, hlength, heach, hroom⟩ := readArguments_given (congrArg Prod.snd hend)
      obtain rfl : args = given := hall
      have hnonempty : args ≠ [] := by
        rintro rfl
        rw [List.mem_singleton.mp hrun] at hlate
        exact absurd hlate (by simp [Late, DebugEvent.IsCommand])
      have hpos := List.length_pos_iff.mpr hnonempty
      have hcount : wordOf word = args.length := by omega
      rw [hcount, Int.toNat_natCast, List.length_nil, Nat.zero_add] at hroom
      have hshort := short_of_entries (by omega) hpos (hroom.resolve_left (by omega))
      have hback : wordBytes args.length = word := by
        rw [← hcount]
        exact wordBytes_of_length hfour
      rw [hfour] at heach
      exact ⟨args, ⟨hback ▸ hgives, heach⟩, proper_of_late hshort hlate hrun⟩

/-- What an event of a safe call may be. -/
def Fine (n : ℕ) : DebugEvent → Prop
  | .mallocArgs number => number = n
  | .malloc k len => k < n ∧ 0 ≤ len
  | .readArgs k => k < n
  | _ => True

theorem fine_of_command {n : ℕ} {e : DebugEvent} (h : e.IsCommand) : Fine n e := by
  cases e <;> trivial

theorem fine_safeEvents (hproper : Proper args) :
    ∀ e ∈ safeEvents env args, Fine args.length e := by
  have hpos := List.length_pos_iff.mpr hproper.nonempty
  obtain ⟨hevents, -, hexit⟩ := debugCommand_follows env args (commandOf args)
  intro e he
  rcases List.mem_append.mp he with he | he
  · rcases List.mem_cons.mp he with rfl | he
    · rfl
    · obtain ⟨k, hk, rfl | rfl | ⟨bytes, rfl⟩⟩ := mem_turns he
      · exact Nat.zero_add args.length ▸ hk
      · trivial
      · exact ⟨Nat.zero_add args.length ▸ hk, Int.natCast_nonneg _⟩
  rcases List.mem_cons.mp he with rfl | he
  · exact hpos
  rcases List.mem_append.mp he with he | he
  · rcases List.mem_append.mp he with he | he
    · rcases hevents e he with hcommand | ⟨rfl, htakes⟩
      · exact fine_of_command hcommand
      · exact hexit.mp hproper.returned htakes
    · rcases mem_freeDebugCallbackArgs he with rfl | ⟨k, hk, rfl | rfl⟩
      · trivial
      · exact hk
      · trivial
  · rw [List.mem_singleton.mp he]
    trivial

/-- The events that a safe call counts once come from its end. -/
theorem count_safeEvents {e : DebugEvent} (hcommand : ¬ e.IsCommand)
    (hnumber : ∀ n, e ≠ .mallocArgs n) (hmalloc : ∀ k len, e ≠ .malloc k len)
    (hread : ∀ k, e ≠ .readArgs k) (hreceived : ∀ k, e ≠ .received k) :
    (safeEvents env args).count e
      = (freeDebugCallbackArgs args.length).count e + [DebugEvent.closeAccept].count e := by
  have hturns : (turns args.length 0 args).count e = 0 := by
    refine List.count_eq_zero.mpr fun h => ?_
    obtain ⟨k, -, h | h | ⟨bytes, h⟩⟩ := mem_turns h
    · exact hread k h
    · exact hreceived k h
    · exact hmalloc k _ h
  have hissued : (debugCommand env args (commandOf args)).events.count e = 0 := by
    refine List.count_eq_zero.mpr fun h => ?_
    rcases (debugCommand_follows env args (commandOf args)).events e h with h | ⟨h, -⟩
    · exact hcommand h
    · exact hread 1 h
  unfold safeEvents
  rw [List.count_append, List.count_cons_of_ne (hnumber _).symm, hturns,
    List.count_cons_of_ne (hread 0).symm, List.count_append, List.count_append, hissued]
  omega

/-- **Proper arguments are handled safely.** -/
theorem safe_given (hproper : Proper args) : Safe ⟨safeEvents env args, .returned⟩ := by
  have hfine := @fine_safeEvents env _ hproper
  constructor
  case number =>
    intro n hn
    obtain rfl : n = args.length := hfine _ hn
    exact Int.natCast_nonneg _
  case lengths => exact fun k len hmem => (hfine _ hmem).2
  case reads =>
    intro n k hn hk
    obtain rfl : n = args.length := hfine _ hn
    exact Int.ofNat_lt.mpr (hfine _ hk)
  case closed =>
    refine (@count_safeEvents env _ _ id (by simp) (by simp) (by simp) (by simp)).trans ?_
    rw [List.count_eq_zero.mpr fun h => not_late_free h (.inr rfl)]
    rfl
  case freed =>
    intro k len hmem
    refine (@count_safeEvents env _ _ id (by simp) (by simp) (by simp) (by simp)).trans ?_
    rw [count_free (hfine _ hmem).1]
    rfl
  case commands =>
    -- a command stands behind the turns of the loop
    intro before e after hsplit hcommand
    have hloop : ∀ e ∈ DebugEvent.mallocArgs args.length :: turns args.length 0 args,
        ¬ e.IsCommand := by
      intro e he
      rcases List.mem_cons.mp he with rfl | he
      · exact id
      · exact fun hissued => not_late_turns he (.inl hissued)
    have hbefore : ∀ e' ∈ DebugEvent.mallocArgs args.length :: turns args.length 0 args,
        e' ∈ before := by
      rcases List.append_eq_append_iff.mp hsplit with ⟨a, hbefore, -⟩ | ⟨c, hevents, hrest⟩
      · rw [hbefore]
        exact fun e' he' => List.mem_append_left _ he'
      · cases c with
        | nil =>
          rw [List.append_nil] at hevents
          exact fun e' he' => hevents ▸ he'
        | cons e₁ c =>
          obtain rfl := (List.cons.inj hrest).1
          exact absurd hcommand (hloop e (hevents ▸ List.mem_append_right _ List.mem_cons_self))
    refine ⟨args.length, hbefore _ List.mem_cons_self, fun k hk => ?_⟩
    refine hbefore _ (List.mem_cons_of_mem _ (received_mem_turns (Nat.zero_le k) ?_))
    rw [Nat.zero_add]
    exact Int.ofNat_lt.mp hk

/-- **The debug port.**  A call is safe iff the client gives its arguments, at least one of them and
no more than the array can hold, and a second one if the first is a command that takes it. -/
theorem debugCallback_safe_iff (env : DebugEnv) (peer : Peer) :
    Safe (debugCallback env peer) ↔ ∃ args, GivesArguments args peer ∧ Proper args := by
  constructor
  · intro h
    have hcount : 0 < (debugCallback env peer).events.count .closeAccept := by
      rw [h.closed]
      decide
    exact given_of_late (.inr rfl) (List.count_pos_iff.mp hcount)
  · rintro ⟨args, hgiven, hproper⟩
    rw [debugCallback_given hgiven hproper]
    exact safe_given hproper

end

/-- A client that sends two bytes of the number and closes: libril returns, and `acceptFD` stays
open. -/
theorem half_a_number :
    debugCallback ⟨x86, 5, none⟩ ⟨[1, 0], fun _ => some 4⟩ = ⟨[], .returned⟩ ∧
      ¬ Safe (debugCallback ⟨x86, 5, none⟩ ⟨[1, 0], fun _ => some 4⟩) := by
  have hrun : debugCallback ⟨x86, 5, none⟩ ⟨[1, 0], fun _ => some 4⟩ = ⟨[], .returned⟩ := rfl
  refine ⟨hrun, fun h => ?_⟩
  have hclosed := h.closed
  rw [hrun] at hclosed
  exact absurd hclosed (by decide)

end CtpCommon.Ril.Debug
