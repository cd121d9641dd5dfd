import CtpCommon.Lib.Framing
import CtpCommon.Lib.Runs
import CtpCommon.Ril.Requests

/-!
# The frames on the command socket

`sendResponseRaw` runs on any number of threads.  It refuses a packet above `MAX_COMMAND_BYTES`,
takes `s_writeMutex`, and writes the header and the body with two loops of `write()`, which may
write less than it is asked to, or nothing.

* `lengthCode` — the header as a length code: `htonl` and its inverse;
* `SendState`, `sendSystem` — the threads that wait for the mutex, the one that holds it with its
  place in the two loops, and the stream; a step is a call, a lock, the result of one `write()`,
  or the end of a loop;
* `frames_delivered` — **PROVED**: in every run the stream is the packets in the order the mutex
  was taken, the last of them perhaps incomplete, and splitting it recovers them;
* `send_completes` — **PROVED**: once `write()` takes what remains, the packet is complete and the
  mutex is free again;
* `stream_eq_sendResponseRaw` — **PROVED**: with the mutex free, the stream is what
  `sendResponseRaw` writes for each packet at once.
-/

namespace CtpCommon.Ril

open Parcel (toNat_ofNat_mod)

/-! ### The header -/

/-- `ntohl`. -/
def ntohl : List UInt8 → ℕ
  | [a, b, c, d] => ((a.toNat * 256 + b.toNat) * 256 + c.toNat) * 256 + d.toNat
  | _ => 0

theorem ntohl_htonl {n : ℕ} (h : n ≤ 4294967295) : ntohl (htonl n) = n := by
  show ((_ * 256 + _) * 256 + _) * 256 + _ = n
  rw [toNat_ofNat_mod, toNat_ofNat_mod, toNat_ofNat_mod, toNat_ofNat_mod]
  omega

def lengthCode : LengthCode where
  width := 4
  bound := 4294967295
  encode := htonl
  decode := ntohl
  width_pos := by decide
  length_encode := fun _ => rfl
  decode_encode := fun _ h => ntohl_htonl h

/-! ### The state -/

/-- What `write()` returns: a number of bytes, or `-1` with one of these errors. -/
inductive WriteResult where
  | written (n : ℕ)
  | eintr
  | eagain
  deriving DecidableEq, Repr

/-- The thread that holds `s_writeMutex`: its packet, in which of the two calls of `blockingWrite`
it is, and `writeOffset` there. -/
structure Writing where
  thread : ℕ
  data : List UInt8
  inBody : Bool
  writeOffset : ℕ
  deriving DecidableEq, Repr

/-- The buffer of the current `blockingWrite`. -/
def Writing.buffer (w : Writing) : List UInt8 := if w.inBody then w.data else htonl w.data.length

/-- The threads that wait for `s_writeMutex` with their packets, its holder, the bytes the peer
has received, the calls so far, and the packets in the order the mutex was taken. -/
structure SendState where
  waiting : List (ℕ × List UInt8)
  writeMutex : Option Writing
  stream : List UInt8
  calls : List (ℕ × List UInt8)
  taken : List (ℕ × List UInt8)
  deriving DecidableEq, Repr

inductive SendAction where
  | sendResponseRaw (thread : ℕ) (data : List UInt8)
  | lock (i : ℕ)
  | write (result : WriteResult)
  | loopEnd
  deriving DecidableEq, Repr

/-- Is the thread inside a call? -/
def SendState.busy (s : SendState) (thread : ℕ) : Bool :=
  s.waiting.any (fun x => x.1 = thread) || s.writeMutex.any fun w => w.thread = thread

/-- One `write()` of the rest of the buffer; `EINTR` and `EAGAIN` repeat it. -/
def SendState.write (s : SendState) (w : Writing) : WriteResult → Option SendState
  | .written n =>
      if n ≤ w.buffer.length - w.writeOffset then some { s with
        writeMutex := some { w with writeOffset := w.writeOffset + n }
        stream := s.stream ++ (w.buffer.drop w.writeOffset).take n } else none
  | .eintr => some s
  | .eagain => some s

/-- One step of a thread, on one open connection. -/
def sendStep (s : SendState) : SendAction → Option SendState
  | .sendResponseRaw thread data =>
      if s.busy thread then none
      else if data.length > maxCommandBytes then
        some { s with calls := s.calls ++ [(thread, data)] }
      else some { s with
        calls := s.calls ++ [(thread, data)]
        waiting := s.waiting ++ [(thread, data)] }
  | .lock i =>
      if s.writeMutex.isSome then none
      else s.waiting[i]?.map fun x => { s with
        waiting := s.waiting.eraseIdx i
        writeMutex := some ⟨x.1, x.2, false, 0⟩
        taken := s.taken ++ [x] }
  | .write result =>
      s.writeMutex.bind fun w =>
        if w.writeOffset < w.buffer.length then s.write w result else none
  | .loopEnd =>
      s.writeMutex.bind fun w =>
        if w.writeOffset < w.buffer.length then none
        else some { s with
          writeMutex := if w.inBody then none
            else some { w with inBody := true, writeOffset := 0 } }

def sendSystem : Runs.System SendState SendAction := ⟨⟨[], none, [], [], []⟩, sendStep⟩

/-! ### What the stream is -/

/-- The packets of calls, as they are sent. -/
def packets (xs : List (ℕ × List UInt8)) : List UInt8 := (xs.map Prod.snd).flatMap lengthCode.packet

/-- What the holder of the mutex has written. -/
def Writing.done (w : Writing) : List UInt8 :=
  if w.inBody then htonl w.data.length ++ w.data.take w.writeOffset
  else (htonl w.data.length).take w.writeOffset

/-- The accepted packets before the one that is being written. -/
def SendState.complete (s : SendState) : List (ℕ × List UInt8) :=
  if s.writeMutex.isSome then s.taken.dropLast else s.taken

/-- **The stream**: the packets in the order the mutex was taken, and what the holder has written
of its own. -/
structure Framed (s : SendState) : Prop where
  small : ∀ x ∈ s.taken ++ s.waiting, x.2.length ≤ maxCommandBytes
  calls : (s.calls.filter fun x => x.2.length ≤ maxCommandBytes).Perm (s.taken ++ s.waiting)
  stream : s.stream = packets s.complete ++ (s.writeMutex.map Writing.done).getD []
  holder : ∀ w, s.writeMutex = some w →
    s.taken = s.complete ++ [(w.thread, w.data)] ∧ w.writeOffset ≤ w.buffer.length

theorem packets_append (xs ys : List (ℕ × List UInt8)) :
    packets (xs ++ ys) = packets xs ++ packets ys := by
  unfold packets
  rw [List.map_append, List.flatMap_append]

theorem packets_singleton (thread : ℕ) (data : List UInt8) :
    packets [(thread, data)] = lengthCode.packet data := by
  unfold packets
  exact List.append_nil _

/-- **The loop invariant of `blockingWrite`**: one `write()` adds the next bytes of the packet. -/
theorem done_write (w : Writing) (n : ℕ) :
    Writing.done { w with writeOffset := w.writeOffset + n }
      = w.done ++ (w.buffer.drop w.writeOffset).take n := by
  unfold Writing.done Writing.buffer
  cases w.inBody with
  | false => exact List.take_add
  | true =>
    show htonl w.data.length ++ w.data.take (w.writeOffset + n)
      = htonl w.data.length ++ w.data.take w.writeOffset ++ (w.data.drop w.writeOffset).take n
    rw [List.append_assoc, ← List.take_add]

/-- The second loop starts where the first ends. -/
theorem done_header {w : Writing} (hbody : w.inBody = false)
    (hend : w.buffer.length ≤ w.writeOffset) :
    Writing.done { w with inBody := true, writeOffset := 0 } = w.done := by
  have hlen : (htonl w.data.length).length ≤ w.writeOffset := by
    unfold Writing.buffer at hend
    rw [hbody] at hend
    exact hend
  unfold Writing.done
  rw [hbody]
  show htonl w.data.length ++ w.data.take 0 = (htonl w.data.length).take w.writeOffset
  rw [List.take_zero, List.append_nil, List.take_of_length_le hlen]

/-- At the end of the second loop the packet is complete. -/
theorem done_body {w : Writing} (hbody : w.inBody = true)
    (hend : w.buffer.length ≤ w.writeOffset) : w.done = lengthCode.packet w.data := by
  have hlen : w.data.length ≤ w.writeOffset := by
    unfold Writing.buffer at hend
    rw [hbody] at hend
    exact hend
  unfold Writing.done
  rw [hbody]
  show htonl w.data.length ++ w.data.take w.writeOffset = htonl w.data.length ++ w.data
  rw [List.take_of_length_le hlen]

/-- What has been written of a packet is its front. -/
theorem done_front (w : Writing) : w.done <+: lengthCode.packet w.data := by
  unfold Writing.done
  cases w.inBody with
  | false => exact (List.take_prefix _ _).trans (List.prefix_append _ _)
  | true => exact (List.prefix_append_right_inj _).mpr (List.take_prefix _ _)

/-! ### The steps -/

/-- A call: a large packet is refused, any other waits. -/
theorem Framed.call {s t : SendState} {thread : ℕ} {data : List UInt8} (h : Framed s)
    (hst : sendStep s (.sendResponseRaw thread data) = some t) : Framed t := by
  simp only [sendStep] at hst
  split at hst
  · exact absurd hst (by simp)
  split at hst
  · rename_i hlarge
    obtain rfl := Option.some.inj hst
    refine ⟨h.small, ?_, h.stream, h.holder⟩
    rw [List.filter_append, List.filter_cons_of_neg (by simpa using hlarge), List.filter_nil,
      List.append_nil]
    exact h.calls
  · rename_i hsmall
    obtain rfl := Option.some.inj hst
    refine ⟨?_, ?_, h.stream, h.holder⟩
    · intro x hx
      rw [← List.append_assoc] at hx
      rcases List.mem_append.mp hx with hold | hnew
      · exact h.small x hold
      · obtain rfl := List.mem_singleton.mp hnew
        exact not_lt.mp hsmall
    · rw [List.filter_append, List.filter_cons_of_pos (by simpa using hsmall), List.filter_nil,
        ← List.append_assoc]
      exact h.calls.append_right _

/-- A lock: the next packet of the stream. -/
theorem Framed.lock {s t : SendState} {i : ℕ} (h : Framed s) (hst : sendStep s (.lock i) = some t) :
    Framed t := by
  simp only [sendStep] at hst
  split at hst
  · exact absurd hst (by simp)
  rename_i hfree
  have hnone : s.writeMutex = none := by simpa using hfree
  obtain ⟨x, hx, rfl⟩ := Option.map_eq_some_iff.mp hst
  obtain ⟨hi, hget⟩ := List.getElem?_eq_some_iff.mp hx
  have hperm : (s.taken ++ [x] ++ s.waiting.eraseIdx i).Perm (s.taken ++ s.waiting) := by
    rw [List.append_assoc]
    refine List.Perm.append_left _ ?_
    have hcons := List.getElem_cons_eraseIdx_perm hi
    rw [hget] at hcons
    exact hcons
  have hcomplete : SendState.complete { s with
      waiting := s.waiting.eraseIdx i
      writeMutex := some ⟨x.1, x.2, false, 0⟩
      taken := s.taken ++ [x] } = s.taken := List.dropLast_concat
  have hold : s.complete = s.taken := by
    unfold SendState.complete
    rw [hnone]
    rfl
  refine ⟨fun y hy => h.small y (hperm.mem_iff.mp hy), h.calls.trans hperm.symm, ?_, ?_⟩
  · have hstream := h.stream
    rw [hnone, hold] at hstream
    rw [hcomplete]
    exact hstream
  · intro w hw
    obtain rfl := Option.some.inj hw
    rw [hcomplete]
    exact ⟨rfl, Nat.zero_le _⟩

/-- **A `write()`** moves on in the packet of the holder. -/
theorem Framed.write {s t : SendState} {result : WriteResult} (h : Framed s)
    (hst : sendStep s (.write result) = some t) : Framed t := by
  obtain ⟨w, hw, hrest⟩ := Option.bind_eq_some_iff.mp hst
  split at hrest
  · rename_i hlt
    cases result with
    | eintr =>
      obtain rfl := Option.some.inj hrest
      exact h
    | eagain =>
      obtain rfl := Option.some.inj hrest
      exact h
    | written n =>
      simp only [SendState.write] at hrest
      split at hrest
      · rename_i hn
        obtain rfl := Option.some.inj hrest
        have hcomplete : ∀ w' stream, SendState.complete
            { s with writeMutex := some w', stream := stream } = s.complete := by
          intro w' stream
          unfold SendState.complete
          rw [hw]
          rfl
        obtain ⟨htaken, -⟩ := h.holder w hw
        refine ⟨h.small, h.calls, ?_, ?_⟩
        · rw [hcomplete]
          show s.stream ++ _ = packets s.complete ++ Writing.done _
          rw [done_write, ← List.append_assoc, h.stream, hw]
          rfl
        · intro w' hw'
          obtain rfl := Option.some.inj hw'
          rw [hcomplete]
          refine ⟨htaken, ?_⟩
          show w.writeOffset + n ≤ w.buffer.length
          omega
      · exact absurd hrest (by simp)
  · exact absurd hrest (by simp)

/-- **The end of a loop**: the header is followed by the body, and the body by the release of the
mutex. -/
theorem Framed.loopEnd {s t : SendState} (h : Framed s) (hst : sendStep s .loopEnd = some t) :
    Framed t := by
  obtain ⟨w, hw, hrest⟩ := Option.bind_eq_some_iff.mp hst
  split at hrest
  · exact absurd hrest (by simp)
  rename_i hend
  obtain rfl := Option.some.inj hrest
  obtain ⟨htaken, -⟩ := h.holder w hw
  have hstream := h.stream
  rw [hw] at hstream
  rcases hbody : w.inBody with _ | _
  · have hcomplete : ∀ w', SendState.complete { s with writeMutex := some w' } = s.complete := by
      intro w'
      unfold SendState.complete
      rw [hw]
      rfl
    show Framed { s with writeMutex := some { w with inBody := true, writeOffset := 0 } }
    refine ⟨h.small, h.calls, ?_, ?_⟩
    · rw [hcomplete]
      show s.stream = packets s.complete ++ Writing.done { w with inBody := true, writeOffset := 0 }
      rw [done_header hbody (not_lt.mp hend)]
      exact hstream
    · intro w' hw'
      obtain rfl := Option.some.inj hw'
      rw [hcomplete]
      exact ⟨htaken, Nat.zero_le _⟩
  · show Framed { s with writeMutex := none }
    refine ⟨h.small, h.calls, ?_, fun w' hw' => absurd hw' (by simp)⟩
    show s.stream = packets s.taken ++ []
    rw [htaken, packets_append, packets_singleton, List.append_nil,
      ← done_body hbody (not_lt.mp hend)]
    exact hstream

theorem Framed.step {s t : SendState} {a : SendAction} (h : Framed s)
    (hst : sendStep s a = some t) : Framed t := by
  cases a with
  | sendResponseRaw thread data => exact h.call hst
  | lock i => exact h.lock hst
  | write result => exact h.write hst
  | loopEnd => exact h.loopEnd hst

/-- The length of an accepted packet has a code. -/
theorem Framed.accepted {s : SendState} (h : Framed s) {x : ℕ × List UInt8}
    (hx : x ∈ s.taken ++ s.waiting) : x.2.length ≤ lengthCode.bound := by
  have hle := h.small x hx
  show x.2.length ≤ 4294967295
  unfold maxCommandBytes at hle
  omega

/-- Splitting the stream gives the complete packets. -/
theorem Framed.split {s : SendState} (h : Framed s) {rest : List UInt8}
    (hstream : s.stream = packets s.complete ++ rest) (hrest : lengthCode.split rest = []) :
    lengthCode.split s.stream = s.complete.map Prod.snd := by
  have hsub : ∀ x ∈ s.complete, x ∈ s.taken := by
    intro x hx
    unfold SendState.complete at hx
    split at hx
    · exact List.mem_of_mem_dropLast hx
    · exact hx
  rw [hstream]
  refine LengthCode.split_packets (fun data hdata => ?_) hrest
  obtain ⟨x, hx, rfl⟩ := List.mem_map.mp hdata
  exact h.accepted (List.mem_append_left _ (hsub x hx))

/-- With the mutex free, every packet of the stream is complete. -/
theorem Framed.free {s : SendState} (h : Framed s) (hfree : s.writeMutex = none) :
    s.stream = packets s.taken ∧ lengthCode.split s.stream = s.taken.map Prod.snd := by
  have hcomplete : s.complete = s.taken := by
    unfold SendState.complete
    rw [hfree]
    rfl
  have hstream := h.stream
  have hsplit := h.split hstream (by rw [hfree]; exact LengthCode.split_nil)
  rw [hfree, hcomplete] at hstream
  rw [hcomplete] at hsplit
  exact ⟨hstream.trans (List.append_nil _), hsplit⟩

/-- **The invariant of a run.** -/
theorem framed {s : SendState} (h : Runs.Reachable sendSystem s) : Framed s := by
  refine Runs.Reaches.invariant h ?_ fun hs _ hst => hs.step hst
  refine ⟨?_, List.Perm.refl _, rfl, ?_⟩
  · intro x hx
    exact absurd hx List.not_mem_nil
  · intro w hw
    exact absurd hw (by simp [sendSystem])

/-- **The frames are delivered whole and in order.**  The accepted packets are those whose thread
has taken the mutex and those that wait for it.  With the mutex free the stream is the packets in
the order it was taken, and splitting it recovers them.  While a thread holds it, the stream ends
with the front of that thread's packet. -/
theorem frames_delivered {s : SendState} (h : Runs.Reachable sendSystem s) :
    (s.calls.filter fun x => x.2.length ≤ maxCommandBytes).Perm (s.taken ++ s.waiting) ∧
      (s.writeMutex = none →
        s.stream = packets s.taken ∧ lengthCode.split s.stream = s.taken.map Prod.snd) ∧
      ∀ w, s.writeMutex = some w →
        s.taken = s.complete ++ [(w.thread, w.data)] ∧ s.stream = packets s.complete ++ w.done ∧
          w.done <+: lengthCode.packet w.data ∧
          lengthCode.split s.stream =
            if w.done = lengthCode.packet w.data then s.taken.map Prod.snd
            else s.complete.map Prod.snd := by
  have hframed := framed h
  have hstream := hframed.stream
  refine ⟨hframed.calls, hframed.free, ?_⟩
  · intro w hw
    obtain ⟨htaken, -⟩ := hframed.holder w hw
    rw [hw] at hstream
    have hsmall : w.data.length ≤ lengthCode.bound := by
      refine hframed.accepted (x := (w.thread, w.data)) (List.mem_append_left _ ?_)
      rw [htaken]
      exact List.mem_append_right _ (List.mem_singleton_self _)
    refine ⟨htaken, hstream, done_front w, ?_⟩
    by_cases hdone : w.done = lengthCode.packet w.data
    · have hall : s.stream = packets s.taken ++ [] := by
        rw [htaken, packets_append, packets_singleton, List.append_nil, ← hdone]
        exact hstream
      rw [if_pos hdone, hall]
      refine LengthCode.split_packets (fun data hdata => ?_) LengthCode.split_nil
      obtain ⟨x, hx, rfl⟩ := List.mem_map.mp hdata
      exact hframed.accepted (List.mem_append_left _ hx)
    · rw [if_neg hdone]
      exact hframed.split hstream (LengthCode.split_incomplete hsmall (done_front w) hdone)

/-- Two threads send a packet and an empty one, a third packet is refused; the writes are partial
or interrupted. -/
def twoThreads : List SendAction :=
  [.sendResponseRaw 1 [10, 11, 12], .sendResponseRaw 2 (List.replicate 8193 0),
    .sendResponseRaw 2 [], .lock 0, .write (.written 1), .write .eintr, .write (.written 3),
    .loopEnd, .write (.written 2), .write .eagain, .write (.written 1), .loopEnd, .lock 0,
    .write (.written 4), .loopEnd, .loopEnd]

theorem twoThreads_delivered : ∃ s, Runs.Reachable sendSystem s ∧
    s.stream = [0, 0, 0, 3, 10, 11, 12, 0, 0, 0, 0] ∧
    lengthCode.split s.stream = [[10, 11, 12], []] := by
  have hrun : (Runs.exec sendSystem (fun _ _ => True) sendSystem.init twoThreads).map
      (fun s => (s.writeMutex, s.stream, s.taken))
        = some (none, [0, 0, 0, 3, 10, 11, 12, 0, 0, 0, 0], [(1, [10, 11, 12]), (2, [])]) := by
    decide +kernel
  obtain ⟨s, hs, hmap⟩ := Option.map_eq_some_iff.mp hrun
  have hreach : Runs.Reachable sendSystem s := Runs.reaches_of_exec hs
  injection hmap with hfree hmap
  injection hmap with hstream htaken
  obtain ⟨-, hdelivered, -⟩ := frames_delivered hreach
  obtain ⟨-, hsplit⟩ := hdelivered hfree
  rw [htaken] at hsplit
  exact ⟨s, hreach, hstream, hsplit⟩

/-! ### The loops end -/

/-- The holder `w` of the mutex has left its loop. -/
structure LoopLeft (s : SendState) (w : Writing) (t : SendState) : Prop where
  taken : t.taken = s.taken
  waiting : t.waiting = s.waiting
  writeMutex : t.writeMutex = if w.inBody then none
    else some { w with inBody := true, writeOffset := 0 }

/-- At the end of its buffer the holder leaves the loop. -/
theorem exec_loopEnd {s : SendState} {w : Writing} (hw : s.writeMutex = some w)
    (hend : w.buffer.length ≤ w.writeOffset) :
    ∃ t, Runs.exec sendSystem (fun _ _ => True) s [.loopEnd] = some t ∧ LoopLeft s w t := by
  have hstep : ∃ t, sendSystem.step s .loopEnd = some t ∧ LoopLeft s w t := by
    simp only [sendSystem, sendStep, hw, Option.bind_some]
    rw [if_neg (not_lt.mpr hend)]
    exact ⟨_, rfl, rfl, rfl, rfl⟩
  obtain ⟨t, ht, hleft⟩ := hstep
  refine ⟨t, ?_, hleft⟩
  rw [Runs.exec, if_pos trivial, ht]
  rfl

/-- When `write()` takes the rest of the buffer, the loop ends. -/
theorem exec_loop {s : SendState} {w : Writing} (hw : s.writeMutex = some w) :
    ∃ as t, Runs.exec sendSystem (fun _ _ => True) s as = some t ∧ LoopLeft s w t := by
  by_cases hlt : w.writeOffset < w.buffer.length
  · have hwrite : ∃ t,
        sendSystem.step s (.write (.written (w.buffer.length - w.writeOffset))) = some t ∧
        t.taken = s.taken ∧ t.waiting = s.waiting ∧ t.writeMutex = some { w with
          writeOffset := w.writeOffset + (w.buffer.length - w.writeOffset) } := by
      simp only [sendSystem, sendStep, hw, Option.bind_some]
      rw [if_pos hlt]
      exact ⟨_, if_pos (Nat.le_refl _), rfl, rfl, rfl⟩
    obtain ⟨u, hu, htaken, hwaiting, hmutex⟩ := hwrite
    have hfull : w.buffer.length ≤ w.writeOffset + (w.buffer.length - w.writeOffset) := by omega
    obtain ⟨t, hrun, hleft⟩ := exec_loopEnd hmutex hfull
    refine ⟨[.write (.written (w.buffer.length - w.writeOffset)), .loopEnd], t, ?_,
      hleft.taken.trans htaken, hleft.waiting.trans hwaiting, hleft.writeMutex⟩
    rw [Runs.exec, if_pos trivial, hu]
    exact hrun
  · exact ⟨[.loopEnd], exec_loopEnd hw (not_lt.mp hlt)⟩

/-- From the body the mutex is released, and from the header after the body. -/
theorem release {s : SendState} (h : Runs.Reachable sendSystem s) {w : Writing}
    (hw : s.writeMutex = some w) :
    ∃ t, Runs.Reachable sendSystem t ∧ t.writeMutex = none ∧ t.waiting = s.waiting ∧
      t.taken = s.taken := by
  obtain ⟨as, u, hrun, hleft⟩ := exec_loop hw
  have hmutex := hleft.writeMutex
  cases hbody : w.inBody with
  | true =>
    rw [hbody] at hmutex
    exact ⟨u, h.exec hrun, hmutex, hleft.waiting, hleft.taken⟩
  | false =>
    rw [hbody] at hmutex
    obtain ⟨bs, t, hrun', hleft'⟩ := exec_loop (s := u) hmutex
    exact ⟨t, (h.exec hrun).exec hrun', hleft'.writeMutex, hleft'.waiting.trans hleft.waiting,
      hleft'.taken.trans hleft.taken⟩

/-- **The mutex is released.**  From every reached state in which a thread holds it, some results
of `write()` and the ends of the loops lead to a state in which it is free, and that thread's
packet is complete. -/
theorem send_completes {s : SendState} (h : Runs.Reachable sendSystem s) {w : Writing}
    (hw : s.writeMutex = some w) :
    ∃ t, Runs.Reachable sendSystem t ∧ t.writeMutex = none ∧ t.waiting = s.waiting ∧
      t.taken = s.taken ∧ t.stream = packets s.complete ++ lengthCode.packet w.data := by
  obtain ⟨t, ht, hnone, hwaiting, htaken⟩ := release h hw
  obtain ⟨hpackets, -⟩ := (framed ht).free hnone
  obtain ⟨hlast, -⟩ := (framed h).holder w hw
  refine ⟨t, ht, hnone, hwaiting, htaken, ?_⟩
  rw [hpackets, htaken, hlast, packets_append, packets_singleton]

/-! ### The calls at once -/

/-- What an event puts on the stream. -/
def ChannelEvent.bytes : ChannelEvent → List UInt8
  | .wrote _ bytes => bytes
  | .closed _ => []

/-- **The threads serialise.**  With the mutex free, the stream is what `sendResponseRaw` writes
for each packet at once, in the order the mutex was taken. -/
theorem stream_eq_sendResponseRaw {s : SendState} (h : Runs.Reachable sendSystem s)
    (hfree : s.writeMutex = none) {fd : Int} (hfd : 0 ≤ fd) :
    s.stream = s.taken.flatMap fun x =>
      (sendResponseRaw fd x.2 noFaults).2.flatMap ChannelEvent.bytes := by
  obtain ⟨hpackets, -⟩ := (framed h).free hfree
  have hone : ∀ x ∈ s.taken, lengthCode.packet x.2
      = (sendResponseRaw fd x.2 noFaults).2.flatMap ChannelEvent.bytes := by
    intro x hx
    rw [sendResponseRaw_frame hfd ((framed h).small x (List.mem_append_left _ hx))]
    show htonl x.2.length ++ x.2 = htonl x.2.length ++ (x.2 ++ [])
    rw [List.append_nil]
  rw [hpackets]
  unfold packets
  rw [List.flatMap_map]
  exact List.flatMap_congr hone

end CtpCommon.Ril
