import GoldenGate.Protocols.Ipv4Frames

/-! # Frame assembly does not depend on chunking

`parse` reads a whole stream in one go: packet after packet, by their lengths. The
assembler gets the same stream in pieces, of any sizes its feed buffer admits. After
each feed it has reported what `parse` reports on the bytes consumed so far, and holds
what `parse` has left over.
-/

namespace GoldenGate.Ipv4

open Memory

/-! ## The sequential parse -/

/-- The length in the first four bytes of a packet. -/
def announced (packet : List UInt8) : Nat :=
  (bytesToInt16Be (packet.getD 2 0) (packet.getD 3 0)).toNat

/-- What a stream amounts to: results with the position of the byte behind them, the
    positions of the bytes that were dropped, and what is left at the end, the bytes of
    an incomplete packet or a number of bytes still to skip. -/
structure Parsed where
  events : List (Nat × Except Error (List UInt8))
  dropped : List Nat
  ending : Except Fault (List UInt8 × Nat)

/-- The same, with earlier events and drops in front. -/
def Parsed.after (parsed : Parsed) (events : List (Nat × Except Error (List UInt8)))
    (dropped : List Nat) : Parsed :=
  { parsed with events := events ++ parsed.events, dropped := dropped ++ parsed.dropped }

/-- The parse goes on from what is left, unless it has come to a fault. -/
def Parsed.extend (parsed : Parsed) (next : List UInt8 → Nat → Parsed) : Parsed :=
  match parsed.ending with
  | .error _ => parsed
  | .ok (pending, skip) => (next pending skip).after parsed.events parsed.dropped

/-- The bytes that a result drops: all of the packet when it has no frame. -/
def droppedBy (result : Except Error α) (position size : Nat) : List Nat :=
  match result with
  | .ok _ => []
  | .error _ => List.range' position size

section Parse

variable (frameOf : List UInt8 → Access (Except Error (List UInt8))) (bufferSize : Nat)

/-- One sequential parse of a stream that starts at the given position. -/
def parse (position : Nat) (stream : List UInt8) : Parsed :=
  if stream.length < 4 then ⟨[], [], .ok (stream, 0)⟩
  else if announced stream < 4 then
    (parse (position + 4) (stream.drop 4)).after [(position + 4, .error .invalidSyntax)]
      (List.range' position 4)
  else if bufferSize < announced stream then
    if stream.length < announced stream then
      ⟨[], List.range' position stream.length, .ok ([], announced stream - stream.length)⟩
    else
      (parse (position + announced stream) (stream.drop (announced stream))).after []
        (List.range' position (announced stream))
  else if stream.length < announced stream then ⟨[], [], .ok (stream, 0)⟩
  else
    match frameOf (stream.take (announced stream)) with
    | .error fault => ⟨[], [], .error fault⟩
    | .ok result =>
        (parse (position + announced stream) (stream.drop (announced stream))).after
          [(position + announced stream, result)] (droppedBy result position (announced stream))
termination_by stream.length
decreasing_by all_goals simp only [List.length_drop]; omega

/-- The parse goes on behind a number of bytes to skip. -/
def resume (position skip : Nat) (stream : List UInt8) : Parsed :=
  if stream.length ≤ skip then
    ⟨[], List.range' position stream.length, .ok ([], skip - stream.length)⟩
  else
    (parse frameOf bufferSize (position + skip) (stream.drop skip)).after []
      (List.range' position skip)

variable {frameOf bufferSize}

theorem Parsed.extend_after (parsed : Parsed) (events : List (Nat × Except Error (List UInt8)))
    (dropped : List Nat) (next : List UInt8 → Nat → Parsed) :
    (parsed.after events dropped).extend next = (parsed.extend next).after events dropped := by
  obtain ⟨events', dropped', ending⟩ := parsed
  cases ending with
  | error fault => rfl
  | ok left => simp [Parsed.extend, Parsed.after]

@[simp] theorem Parsed.after_nil (parsed : Parsed) : parsed.after [] [] = parsed := rfl

theorem parse_short {stream : List UInt8} (short : stream.length < 4) (position : Nat) :
    parse frameOf bufferSize position stream = ⟨[], [], .ok (stream, 0)⟩ := by
  rw [parse, if_pos short]

section Branches

variable {stream : List UInt8} (long : ¬ stream.length < 4) (position : Nat)
include long

theorem parse_invalid (invalid : announced stream < 4) :
    parse frameOf bufferSize position stream =
      (parse frameOf bufferSize (position + 4) (stream.drop 4)).after
        [(position + 4, .error .invalidSyntax)] (List.range' position 4) := by
  rw [parse, if_neg long, if_pos invalid]

theorem parse_large (valid : ¬ announced stream < 4) (large : bufferSize < announced stream) :
    parse frameOf bufferSize position stream =
      resume frameOf bufferSize position (announced stream) stream := by
  rw [parse, if_neg long, if_neg valid, if_pos large, resume]
  rcases Nat.lt_trichotomy stream.length (announced stream) with cut | whole | more
  · rw [if_pos cut, if_pos cut.le]
  · -- the stream ends with the skipped packet
    rw [if_neg whole.not_lt, if_pos whole.le, ← whole, List.drop_length,
      parse_short (by simp) _, Nat.sub_self]
    simp [Parsed.after]
  · rw [if_neg (by omega), if_neg (by omega)]

theorem parse_held (valid : ¬ announced stream < 4) (fits : ¬ bufferSize < announced stream)
    (cut : stream.length < announced stream) :
    parse frameOf bufferSize position stream = ⟨[], [], .ok (stream, 0)⟩ := by
  rw [parse, if_neg long, if_neg valid, if_neg fits, if_pos cut]

theorem parse_packet (valid : ¬ announced stream < 4) (fits : ¬ bufferSize < announced stream)
    (whole : ¬ stream.length < announced stream) :
    parse frameOf bufferSize position stream =
      match frameOf (stream.take (announced stream)) with
      | .error fault => ⟨[], [], .error fault⟩
      | .ok result =>
          (parse frameOf bufferSize (position + announced stream)
            (stream.drop (announced stream))).after
            [(position + announced stream, result)]
            (droppedBy result position (announced stream)) := by
  rw [parse, if_neg long, if_neg valid, if_neg fits, if_neg whole]

end Branches

theorem resume_within {stream : List UInt8} (position : Nat) (inside : stream.length ≤ skip) :
    resume frameOf bufferSize position skip stream =
      ⟨[], List.range' position stream.length, .ok ([], skip - stream.length)⟩ := by
  rw [resume, if_pos inside]

theorem resume_beyond {stream : List UInt8} (position : Nat) (beyond : ¬ stream.length ≤ skip) :
    resume frameOf bufferSize position skip stream =
      (parse frameOf bufferSize (position + skip) (stream.drop skip)).after []
        (List.range' position skip) := by
  rw [resume, if_neg beyond]

theorem resume_zero (position : Nat) (stream : List UInt8) :
    resume frameOf bufferSize position 0 stream = parse frameOf bufferSize position stream := by
  unfold resume
  split
  · next empty =>
      obtain rfl : stream = [] := by simpa using empty
      rw [parse_short (by decide)]
      rfl
  · rfl

theorem announced_append {p : List UInt8} (long : ¬ p.length < 4) (q : List UInt8) :
    announced (p ++ q) = announced p := by
  unfold announced
  rw [List.getD_append _ _ _ _ (by omega), List.getD_append _ _ _ _ (by omega)]

/-- A stream that is one packet. -/
theorem parse_exact {stream : List UInt8} (position : Nat) (valid : ¬ announced stream < 4)
    (fits : ¬ bufferSize < announced stream) (exact_ : stream.length = announced stream) :
    parse frameOf bufferSize position stream =
      match frameOf stream with
      | .error fault => ⟨[], [], .error fault⟩
      | .ok result =>
          ⟨[(position + stream.length, result)], droppedBy result position stream.length,
            .ok ([], 0)⟩ := by
  rw [parse_packet (by omega) _ valid fits (by omega), ← exact_, List.take_length, List.drop_length,
    parse_short (by simp)]
  cases frameOf stream with
  | error fault => rfl
  | ok result => simp [Parsed.after]

theorem resume_append (position skip : Nat) (p q : List UInt8) (inside : p.length ≤ skip) :
    resume frameOf bufferSize position skip (p ++ q) =
      (resume frameOf bufferSize (position + p.length) (skip - p.length) q).after []
        (List.range' position p.length) := by
  have joined : ∀ n, List.range' position (p.length + n) =
      List.range' position p.length ++ List.range' (position + p.length) n := fun n => by
    rw [← List.range'_append, Nat.one_mul]
  unfold resume
  rw [List.length_append]
  by_cases cut : q.length ≤ skip - p.length
  · rw [if_pos cut, if_pos (by omega), joined]
    simp only [Parsed.after, List.nil_append, Parsed.mk.injEq, Except.ok.injEq, Prod.mk.injEq,
      true_and]
    omega
  · obtain ⟨n, rfl⟩ : ∃ n, skip = p.length + n := ⟨skip - p.length, by omega⟩
    rw [if_neg cut, if_neg (by omega), Nat.add_sub_cancel_left, List.drop_append,
      List.drop_eq_nil_of_le (by omega), List.nil_append, Nat.add_sub_cancel_left, Nat.add_assoc]
    simp only [Parsed.after, List.nil_append, joined, List.append_assoc]

/-- Every frame comes from a packet of the stream, which ends where it is reported. -/
theorem parse_frames {frame : List UInt8} (position : Nat) (stream : List UInt8)
    (reported : (at_, .ok frame) ∈ (parse frameOf bufferSize position stream).events) :
    ∃ start size, position + start + size = at_ ∧ start + size ≤ stream.length ∧
      size = announced (stream.drop start) ∧
      frameOf ((stream.drop start).take size) = .ok (.ok frame) := by
  induction size : stream.length using Nat.strong_induction_on generalizing stream position with
  | _ n ih =>
    subst size
    -- a frame of the rest of the stream
    have later : ∀ k, 0 < k → k ≤ stream.length →
        (at_, .ok frame) ∈ (parse frameOf bufferSize (position + k) (stream.drop k)).events →
        ∃ start size, position + start + size = at_ ∧ start + size ≤ stream.length ∧
          size = announced (stream.drop start) ∧
          frameOf ((stream.drop start).take size) = .ok (.ok frame) := by
      intro k positive inside member
      obtain ⟨start, size, place, fits, announces, emits⟩ :=
        ih (stream.drop k).length (by simp only [List.length_drop]; omega) (position + k)
          (stream.drop k) member rfl
      rw [List.length_drop] at fits
      rw [List.drop_drop] at announces emits
      exact ⟨k + start, size, by omega, by omega, announces, emits⟩
    by_cases short : stream.length < 4
    · rw [parse_short short] at reported
      simp at reported
    by_cases invalid : announced stream < 4
    · rw [parse_invalid short _ invalid] at reported
      refine later 4 (by decide) (by omega) ?_
      simpa [Parsed.after] using reported
    by_cases large : bufferSize < announced stream
    · rw [parse_large short _ invalid large] at reported
      by_cases within : stream.length ≤ announced stream
      · rw [resume_within _ within] at reported
        simp at reported
      · rw [resume_beyond _ within] at reported
        exact later (announced stream) (by omega) (by omega) reported
    by_cases cut : stream.length < announced stream
    · rw [parse_held short _ invalid large cut] at reported
      simp at reported
    · rw [parse_packet short _ invalid large cut] at reported
      cases emits : frameOf (stream.take (announced stream)) with
      | error fault =>
          rw [emits] at reported
          simp at reported
      | ok result =>
          rw [emits] at reported
          rcases List.mem_cons.mp reported with here | there
          · obtain ⟨rfl, rfl⟩ := Prod.mk.inj here
            exact ⟨0, announced stream, rfl, by omega, rfl, emits⟩
          · exact later (announced stream) (by omega) (by omega) there

/-- Parsing more of the stream resumes where the parse of its start ended. -/
theorem parse_append (position : Nat) (p q : List UInt8) :
    parse frameOf bufferSize position (p ++ q) =
      (parse frameOf bufferSize position p).extend fun pending skip =>
        resume frameOf bufferSize (position + p.length - pending.length) skip (pending ++ q) := by
  induction size : p.length using Nat.strong_induction_on generalizing p position with
  | _ n ih =>
    subst size
    -- behind a packet that is complete in `p`, the parse is that of a shorter `p`
    have rest : ∀ k events dropped, 0 < k → k ≤ p.length →
        (parse frameOf bufferSize (position + k) ((p ++ q).drop k)).after events dropped =
          ((parse frameOf bufferSize (position + k) (p.drop k)).after events dropped).extend
            fun pending skip =>
              resume frameOf bufferSize (position + p.length - pending.length) skip
                (pending ++ q) := by
      intro k events dropped positive inside
      have shorter : (p.drop k).length < p.length := by
        simp only [List.length_drop]
        omega
      have place : position + k + (p.drop k).length = position + p.length := by
        simp only [List.length_drop]
        omega
      have step := ih (p.drop k).length shorter (position + k) (p.drop k) rfl
      rw [place] at step
      rw [List.drop_append_of_le_length inside, step, Parsed.extend_after]
    -- an incomplete packet is all that is left
    have held : parse frameOf bufferSize position p = ⟨[], [], .ok (p, 0)⟩ →
        parse frameOf bufferSize position (p ++ q) =
          (parse frameOf bufferSize position p).extend fun pending skip =>
            resume frameOf bufferSize (position + p.length - pending.length) skip
              (pending ++ q) := by
      intro left
      rw [left]
      simp [Parsed.extend, resume_zero]
    by_cases short : p.length < 4
    · exact held (parse_short short position)
    have long : ¬ (p ++ q).length < 4 := by
      simp only [List.length_append]
      omega
    have same := announced_append short q
    by_cases invalid : announced p < 4
    · rw [parse_invalid long _ (same ▸ invalid), parse_invalid short _ invalid]
      exact rest 4 _ _ (by decide) (by omega)
    have valid : ¬ announced (p ++ q) < 4 := same ▸ invalid
    by_cases large : bufferSize < announced p
    · rw [parse_large long _ valid (same ▸ large), parse_large short _ invalid large, same]
      by_cases cut : p.length ≤ announced p
      · rw [resume_append _ _ _ _ cut, resume_within _ cut]
        simp [Parsed.extend]
      · rw [resume_beyond _ cut, resume_beyond _ (by simp only [List.length_append]; omega)]
        exact rest _ _ _ (by omega) (by omega)
    have fits : ¬ bufferSize < announced (p ++ q) := same ▸ large
    by_cases cut : p.length < announced p
    · exact held (parse_held short _ invalid large cut)
    · have whole : ¬ (p ++ q).length < announced (p ++ q) := by
        simp only [List.length_append]
        omega
      have packet : (p ++ q).take (announced p) = p.take (announced p) :=
        List.take_append_of_le_length (by omega)
      rw [parse_packet long _ valid fits whole, parse_packet short _ invalid large cut, same, packet]
      cases frameOf (p.take (announced p)) with
      | error fault => rfl
      | ok result => exact rest _ _ _ (by omega) (by omega)

/-- The parse of more of the stream has the same events first. -/
theorem parse_events_front (position : Nat) (p q : List UInt8) :
    (parse frameOf bufferSize position p).events <+:
      (parse frameOf bufferSize position (p ++ q)).events := by
  rw [parse_append]
  unfold Parsed.extend
  split
  · exact List.prefix_refl _
  · exact List.prefix_append _ _

end Parse

/-! ## Feeding in pieces -/

/-- An assembler in the middle of a stream, with what it has reported so far. -/
structure Feeding where
  assembler : FrameAssembler
  position : Nat
  events : List (Nat × Except Error (List UInt8))
  dropped : List Nat

/-- The result of a feed that shows a frame or an error. -/
def feedEvents (position : Nat) :
    Except Error (Option (List UInt8)) → List (Nat × Except Error (List UInt8))
  | .ok none => []
  | .ok (some frame) => [(position, .ok frame)]
  | .error e => [(position, .error e)]

/-- The bytes a feed drops: those it skips, and those held for a packet that it gives up. -/
def feedDrops (before after : FrameAssembler) (position consumed : Nat)
    (result : Except Error (Option (List UInt8))) : List Nat :=
  if before.skip ≠ 0 then List.range' position consumed
  else if after.skip ≠ 0 then
    List.range' (position - before.payloadSize) (before.payloadSize + consumed)
  else droppedBy result (position - before.payloadSize) (before.payloadSize + consumed)

/-- Put up to `k` of the next bytes into the feed buffer, feed them, and go on behind
    those that were consumed. -/
def feedStep (stream : List UInt8) (feeding : Feeding) (k : Nat) : Access Feeding := do
  let before := feeding.assembler
  let (offset, size) ← before.getFeedBuffer
  let chunk := (stream.drop feeding.position).take (min k size)
  let buffer ← store before.buffer offset chunk
  let (after, consumed, result) ← { before with buffer := buffer }.feed chunk.length
  let position := feeding.position + consumed
  return ⟨after, position, feeding.events ++ feedEvents position result,
    feeding.dropped ++ feedDrops before after feeding.position consumed result⟩

/-- Feed by feed, with the given sizes; a fault ends the run. -/
def feedAll (stream : List UInt8) : List Nat → Feeding → Feeding × Option Fault
  | [], feeding => (feeding, none)
  | k :: ks, feeding =>
      match feedStep stream feeding k with
      | .ok next => feedAll stream ks next
      | .error fault => (feeding, some fault)

/-- The assembler holds what a parse has left. -/
structure Keeps (assembler : FrameAssembler) (pending : List UInt8) (skip : Nat) : Prop where
  sized : assembler.buffer.length = assembler.bufferSize
  roomy : minIpHeaderSize ≤ assembler.bufferSize
  skips : assembler.skip = skip
  held : assembler.payloadSize = pending.length
  content : pending <+: assembler.buffer
  packet : assembler.packetSize = if pending.length < 4 then 0 else announced pending
  idle : skip ≠ 0 → pending = []
  incomplete : ¬ pending.length < 4 → ¬ announced pending < 4 ∧
    ¬ assembler.bufferSize < announced pending ∧ pending.length < announced pending

/-- The parse goes on from what the assembler holds. -/
def resumed (assembler : FrameAssembler) (pending : List UInt8) (skip position : Nat)
    (bytes : List UInt8) : Parsed :=
  resume (FrameAssembler.packetFrame assembler.ipConfig assembler.ipMap) assembler.bufferSize
    (position - pending.length) skip (pending ++ bytes)

/-- A feed does to the assembler what the parse does with the bytes it consumes. -/
def FeedsAs (before : FrameAssembler) (pending : List UInt8) (skip position : Nat)
    (chunk : List UInt8) (fed : Access FrameAssembler.Fed) : Prop :=
  match fed with
  | .error fault =>
      ∃ n ≤ chunk.length,
        resumed before pending skip position (chunk.take n) = ⟨[], [], .error fault⟩
  | .ok (after, n, result) =>
      n ≤ chunk.length ∧ (0 < chunk.length → 0 < n) ∧
      ∃ pending' skip', Keeps after pending' skip' ∧ pending'.length ≤ pending.length + n ∧
        after.ipConfig = before.ipConfig ∧ after.ipMap = before.ipMap ∧
        after.bufferSize = before.bufferSize ∧
        resumed before pending skip position (chunk.take n) =
          ⟨feedEvents (position + n) result, feedDrops before after position n result,
            .ok (pending', skip')⟩

theorem feedPacket_eq (self : FrameAssembler) (consumed dataSize : Nat) {willTake : Nat}
    (takes : willTake = if consumed < dataSize then
      min (dataSize - consumed) (self.packetSize - self.payloadSize) else 0) :
    self.feedPacket consumed dataSize =
      if self.payloadSize + willTake = self.packetSize then do
        let result ← FrameAssembler.packetFrame self.ipConfig self.ipMap
          (self.buffer.take self.packetSize)
        .ok ({ self with packetSize := 0, payloadSize := 0 }, consumed + willTake, result.map some)
      else
        .ok ({ self with payloadSize := self.payloadSize + willTake }, consumed + willTake,
          .ok none) := by
  unfold FrameAssembler.feedPacket FrameAssembler.emitPacket
  simp only [← takes]
  by_cases complete : self.payloadSize + willTake = self.packetSize
  · simp only [complete, if_true]
    cases FrameAssembler.packetFrame self.ipConfig self.ipMap (self.buffer.take self.packetSize) <;>
      rfl
  · simp only [complete, if_false]
    rfl

/-- The assembler between packets. -/
theorem keeps_nothing {assembler : FrameAssembler}
    (sized : assembler.buffer.length = assembler.bufferSize)
    (roomy : minIpHeaderSize ≤ assembler.bufferSize) (idle : assembler.payloadSize = 0)
    (none : assembler.packetSize = 0) (skips : assembler.skip = skip) :
    Keeps assembler [] skip where
  sized := sized
  roomy := roomy
  skips := skips
  held := idle
  content := List.nil_prefix
  packet := none
  idle := fun _ => rfl
  incomplete := fun long => absurd (by decide) long

/-- A packet that the feed completes is given away, any other is held. -/
theorem feedPacket_feeds {before self : FrameAssembler} {pending chunk : List UInt8}
    {position consumed willTake : Nat} (behind : pending.length ≤ position)
    (idle : before.skip = 0) (held : before.payloadSize = pending.length)
    (same : self.ipConfig = before.ipConfig ∧ self.ipMap = before.ipMap ∧
      self.bufferSize = before.bufferSize ∧ self.skip = 0)
    (sized : self.buffer.length = self.bufferSize) (roomy : minIpHeaderSize ≤ self.bufferSize)
    (takes : willTake = if consumed < chunk.length then
      min (chunk.length - consumed) (self.packetSize - self.payloadSize) else 0)
    (few : consumed + willTake ≤ chunk.length) (some_ : 0 < chunk.length → 0 < consumed + willTake)
    (content : pending ++ chunk.take (consumed + willTake) <+: self.buffer)
    (payload : self.payloadSize + willTake = pending.length + (consumed + willTake))
    (long : ¬ pending.length + (consumed + willTake) < 4)
    (packet : self.packetSize = announced (pending ++ chunk.take (consumed + willTake)))
    (valid : ¬ self.packetSize < 4) (fits : ¬ self.bufferSize < self.packetSize)
    (inside : self.payloadSize + willTake ≤ self.packetSize) :
    FeedsAs before pending 0 position chunk (self.feedPacket consumed chunk.length) := by
  obtain ⟨sameConfig, sameMap, sameSize, notSkipping⟩ := same
  rw [feedPacket_eq self consumed chunk.length takes]
  generalize consumed + willTake = n at *
  have length : (pending ++ chunk.take n).length = pending.length + n := by
    simp only [List.length_append, List.length_take]
    omega
  have start : position - pending.length + (pending.length + n) = position + n := by omega
  by_cases complete : self.payloadSize + willTake = self.packetSize
  · have whole : self.buffer.take self.packetSize = pending ++ chunk.take n := by
      rw [← complete, payload, ← length]
      exact (List.prefix_iff_eq_take.mp content).symm
    have emits : FrameAssembler.packetFrame self.ipConfig self.ipMap
        (self.buffer.take self.packetSize) =
        FrameAssembler.packetFrame before.ipConfig before.ipMap (pending ++ chunk.take n) := by
      rw [sameConfig, sameMap, whole]
    have parsed : resumed before pending 0 position (chunk.take n) = _ :=
      (resume_zero _ _).trans (parse_exact (position - pending.length) (packet ▸ valid)
        (packet ▸ sameSize ▸ fits) (by omega))
    rw [length, start] at parsed
    rw [if_pos complete, emits]
    cases emitted : FrameAssembler.packetFrame before.ipConfig before.ipMap
        (pending ++ chunk.take n) with
    | error fault =>
        rw [emitted] at parsed
        exact ⟨n, few, parsed⟩
    | ok result =>
        rw [emitted] at parsed
        refine ⟨few, some_, [], 0, ?_, by simp, sameConfig, sameMap, sameSize, ?_⟩
        · exact keeps_nothing sized roomy rfl rfl notSkipping
        · rw [parsed]
          cases result <;>
            simp [feedEvents, feedDrops, idle, notSkipping, held, Except.map, droppedBy]
  · rw [if_neg complete]
    have parsed : resumed before pending 0 position (chunk.take n) = _ :=
      (resume_zero _ _).trans (parse_held (by omega) (position - pending.length) (packet ▸ valid)
        (packet ▸ sameSize ▸ fits) (by omega))
    refine ⟨few, some_, pending ++ chunk.take n, 0, ?_, length.le, sameConfig, sameMap, sameSize, ?_⟩
    · exact
        { sized := sized
          roomy := roomy
          skips := notSkipping
          held := payload.trans length.symm
          content := content
          packet := by rw [if_neg (by omega)]; exact packet
          idle := fun h => absurd rfl h
          incomplete := fun _ => ⟨packet ▸ valid, packet ▸ fits, by rw [← packet]; omega⟩ }
    · rw [parsed]
      simp [feedEvents, feedDrops, idle, notSkipping, droppedBy]

/-- The offset and size of the feed buffer, by what is held. -/
theorem getFeedBuffer_spec (keeps : Keeps assembler pending skip) :
    ∃ size, assembler.getFeedBuffer = .ok (pending.length, size) ∧ 0 < size ∧
      pending.length + size ≤ assembler.bufferSize ∧ (skip ≠ 0 → size ≤ skip) ∧
      (skip = 0 → pending.length < 4 → pending.length + size = 4) := by
  obtain ⟨sized, roomy, skips, held, content, packet, idle, incomplete⟩ := keeps
  have small := content.length_le
  simp only [minIpHeaderSize] at roomy
  unfold FrameAssembler.getFeedBuffer
  rw [skips]
  by_cases skipping : skip ≠ 0
  · obtain rfl := idle skipping
    rw [if_pos skipping]
    refine ⟨min skip assembler.bufferSize, rfl, ?_, ?_, fun _ => ?_, fun none => absurd none skipping⟩
    · omega
    · simp only [List.length_nil]
      omega
    · omega
  · have room : assembler.bufferSize ≥ assembler.payloadSize := by omega
    rw [if_neg skipping, assert_of room, ok_bind, held, packet]
    by_cases short : pending.length < 4
    · rw [if_pos short, if_pos rfl]
      refine ⟨minPartialHeaderSize - pending.length, rfl, ?_, ?_, fun h => absurd h skipping,
        fun _ _ => ?_⟩ <;> simp only [minPartialHeaderSize] <;> omega
    · obtain ⟨valid, fits, cut⟩ := incomplete short
      rw [if_neg short, if_neg (by omega)]
      exact ⟨assembler.bufferSize - pending.length, rfl, by omega, by omega,
        fun h => absurd h skipping, fun _ h => absurd h short⟩

theorem load_announced {header buffer : List UInt8} (long : ¬ header.length < 4)
    (content : header <+: buffer) :
    ∃ hi lo, load buffer 2 = .ok hi ∧ load buffer 3 = .ok lo ∧
      (bytesToInt16Be hi lo).toNat = announced header := by
  obtain ⟨rest, rfl⟩ := content
  refine ⟨header.getD 2 0, header.getD 3 0, ?_, ?_, rfl⟩
  · rw [load_lt (by simp only [List.length_append]; omega), List.getD_eq_getElem _ _ (by omega)]
    exact congrArg _ (List.getElem_append_left (by omega))
  · rw [load_lt (by simp only [List.length_append]; omega), List.getD_eq_getElem _ _ (by omega)]
    exact congrArg _ (List.getElem_append_left (by omega))

/-- The four cases of a feed: skipping, an incomplete header, the end of a header, the body. -/
theorem feed_feeds (keeps : Keeps before pending skip) (behind : pending.length ≤ position)
    {buffer : List UInt8} (sized : buffer.length = before.bufferSize)
    (content : pending ++ chunk <+: buffer) (offered : skip ≠ 0 → chunk.length ≤ skip)
    (header : skip = 0 → pending.length < 4 → pending.length + chunk.length ≤ 4) :
    FeedsAs before pending skip position chunk
      ({ before with buffer := buffer }.feed chunk.length) := by
  obtain ⟨-, roomy, skips, held, -, packet, idle, incomplete⟩ := keeps
  unfold FrameAssembler.feed
  simp only [skips]
  by_cases skipping : skip ≠ 0
  · obtain rfl := idle skipping
    have inside := offered skipping
    rw [if_pos skipping, if_pos inside]
    refine ⟨le_rfl, id, [], skip - chunk.length, ?_, by simp, rfl, rfl, rfl, ?_⟩
    · exact keeps_nothing sized roomy held (by simpa using packet) rfl
    · rw [resumed, List.nil_append, List.take_length, resume_within _ inside]
      simp [feedEvents, feedDrops, skips, skipping]
  · obtain rfl : skip = 0 := by simpa using skipping
    rw [if_neg skipping, packet]
    by_cases short : pending.length < 4
    · have fits := header rfl short
      have allowed : before.payloadSize < minPartialHeaderSize := by
        simp only [minPartialHeaderSize]
        omega
      rw [if_pos short, if_pos rfl, assert_of allowed, ok_bind, held]
      have parsed : ∀ n, resumed before pending 0 position (chunk.take n) = _ := fun n =>
        resume_zero (position - pending.length) (pending ++ chunk.take n)
      by_cases partial_ : minPartialHeaderSize - pending.length > chunk.length
      · -- still no header
        have cut : (pending ++ chunk).length < 4 := by
          simp only [minPartialHeaderSize, List.length_append] at *
          omega
        rw [if_pos partial_]
        refine ⟨le_rfl, id, pending ++ chunk, 0, ?_, by simp, rfl, rfl, rfl, ?_⟩
        · exact
            { sized := sized
              roomy := roomy
              skips := rfl
              held := by simp
              content := content
              packet := by rw [if_pos cut]
              idle := fun h => absurd rfl h
              incomplete := fun long => absurd cut long }
        · rw [parsed, List.take_length, parse_short cut]
          simp [feedEvents, feedDrops, skips, droppedBy]
      · -- the header is complete, and nothing behind it was offered
        have whole : pending.length + chunk.length = 4 := by
          simp only [minPartialHeaderSize] at partial_
          omega
        have length : (pending ++ chunk).length = 4 := by
          rw [List.length_append]
          exact whole
        obtain ⟨hi, lo, high, low, size⟩ := load_announced (by omega) content
        have needed : minPartialHeaderSize - pending.length = chunk.length := by
          simp only [minPartialHeaderSize]
          omega
        rw [if_neg partial_, high, ok_bind, low, ok_bind, size, needed, whole]
        have all : chunk.take chunk.length = chunk := List.take_length
        have rest : (pending ++ chunk).drop 4 = [] := List.drop_eq_nil_of_le length.le
        by_cases invalid : announced (pending ++ chunk) < 4
        · rw [if_pos (by simpa [minPartialHeaderSize] using invalid)]
          refine ⟨le_rfl, id, [], 0, keeps_nothing sized roomy rfl rfl rfl, by simp, rfl, rfl, rfl, ?_⟩
          rw [parsed, all, parse_invalid (by omega) _ invalid, rest, parse_short (by simp)]
          have start : position - pending.length + 4 = position + chunk.length := by omega
          simp [feedEvents, feedDrops, skips, held, whole, Parsed.after, FrameAssembler.reset,
            droppedBy, start]
        by_cases large : before.bufferSize < announced (pending ++ chunk)
        · rw [if_neg (by simpa [minPartialHeaderSize] using invalid), if_pos large]
          refine ⟨le_rfl, id, [], announced (pending ++ chunk) - 4,
            keeps_nothing sized roomy rfl rfl rfl, by simp, rfl, rfl, rfl, ?_⟩
          simp only [minIpHeaderSize] at roomy
          rw [parsed, all, parse_large (by omega) _ invalid large, resume_within _ (by omega), length]
          have skipping' : announced (pending ++ chunk) - 4 ≠ 0 := by omega
          simp [feedEvents, feedDrops, skips, held, whole, skipping']
        · rw [if_neg (by simpa [minPartialHeaderSize] using invalid), if_neg large]
          refine @feedPacket_feeds before _ pending chunk position chunk.length 0 behind skips held
            ⟨rfl, rfl, rfl, rfl⟩ sized roomy ?_ le_rfl id ?_ ?_ ?_ ?_ ?_ ?_ ?_
          · simp
          · simpa using content
          · simp [whole]
          · simp [whole]
          · simp
          · exact invalid
          · exact large
          · simpa using Nat.not_lt.mp invalid
    · -- the body
      obtain ⟨valid, fits, cut⟩ := incomplete short
      rw [if_neg short, if_neg (by omega), held]
      obtain ⟨w, takes⟩ : ∃ w, w = min chunk.length (announced pending - pending.length) := ⟨_, rfl⟩
      have same : announced (pending ++ chunk.take w) = announced pending := announced_append short _
      refine @feedPacket_feeds before _ pending chunk position 0 w behind skips held
        ⟨rfl, rfl, rfl, rfl⟩ sized roomy ?_ ?_ ?_ ?_ ?_ ?_ ?_ ?_ ?_ ?_
      · simp only [Nat.sub_zero, takes]
        split <;> omega
      · omega
      · omega
      · rw [Nat.zero_add]
        exact ((List.prefix_append_right_inj pending).mpr (List.take_prefix w chunk)).trans content
      · rw [Nat.zero_add]
      · omega
      · rw [Nat.zero_add]
        exact same.symm
      · exact valid
      · exact fits
      · simp only
        omega

/-! ## Whole runs -/

/-- The run has reported what the parse reports on the bytes consumed so far. -/
structure Follows (origin : FrameAssembler) (stream : List UInt8) (feeding : Feeding) : Prop where
  same : feeding.assembler.ipConfig = origin.ipConfig ∧ feeding.assembler.ipMap = origin.ipMap ∧
    feeding.assembler.bufferSize = origin.bufferSize
  inside : feeding.position ≤ stream.length
  parsed : ∃ pending skip, Keeps feeding.assembler pending skip ∧
    pending.length ≤ feeding.position ∧
    parse (FrameAssembler.packetFrame origin.ipConfig origin.ipMap) origin.bufferSize 0
      (stream.take feeding.position) = ⟨feeding.events, feeding.dropped, .ok (pending, skip)⟩

/-- More of the stream may come. -/
theorem Follows.extend (follows : Follows origin stream feeding) (more : List UInt8) :
    Follows origin (stream ++ more) feeding := by
  obtain ⟨same, inside, parsed⟩ := follows
  refine ⟨same, by rw [List.length_append]; omega, ?_⟩
  rw [List.take_append_of_le_length inside]
  exact parsed

/-- One feed of a run that follows the parse. -/
theorem feedStep_follows (follows : Follows origin stream feeding) (k : Nat) :
    match feedStep stream feeding k with
    | .ok next =>
        Follows origin stream next ∧ feeding.position ≤ next.position ∧
        (0 < k → feeding.position < stream.length → feeding.position < next.position)
    | .error fault =>
        parse (FrameAssembler.packetFrame origin.ipConfig origin.ipMap) origin.bufferSize 0 stream =
          ⟨feeding.events, feeding.dropped, .error fault⟩ := by
  obtain ⟨⟨sameConfig, sameMap, sameSize⟩, inside, pending, skip, keeps, behind, parsed⟩ := follows
  obtain ⟨size, offered, positive, room, skipBound, headerBound⟩ := getFeedBuffer_spec keeps
  obtain ⟨chunk, cut⟩ : ∃ chunk, chunk = (stream.drop feeding.position).take (min k size) :=
    ⟨_, rfl⟩
  have chunkLength : chunk.length = min (min k size) (stream.length - feeding.position) := by
    rw [cut, List.length_take, List.length_drop]
  have stored : store feeding.assembler.buffer pending.length chunk =
      .ok (pending ++ chunk ++ feeding.assembler.buffer.drop (pending.length + chunk.length)) := by
    have fits : pending.length + chunk.length ≤ feeding.assembler.buffer.length := by
      rw [keeps.sized]
      omega
    rw [store, if_pos fits, ← List.prefix_iff_eq_take.mp keeps.content]
  have sized : (pending ++ chunk ++
      feeding.assembler.buffer.drop (pending.length + chunk.length)).length =
      feeding.assembler.bufferSize := by
    simp only [List.length_append, List.length_drop, keeps.sized]
    omega
  have feeds := feed_feeds keeps behind sized (List.prefix_append _ _)
    (fun skipping => by have := skipBound skipping; omega)
    (fun none short => by have := headerBound none short; omega)
  -- the parse of the bytes consumed with this feed
  have next : ∀ n ≤ chunk.length,
      parse (FrameAssembler.packetFrame origin.ipConfig origin.ipMap) origin.bufferSize 0
        (stream.take (feeding.position + n)) =
      (resumed feeding.assembler pending skip feeding.position (chunk.take n)).after
        feeding.events feeding.dropped := by
    intro n few
    have piece : stream.take (feeding.position + n) =
        stream.take feeding.position ++ chunk.take n := by
      rw [List.take_add, cut, List.take_take, Nat.min_eq_left (by omega)]
    rw [piece, parse_append, parsed, List.length_take, Nat.min_eq_left inside, Nat.zero_add]
    simp only [Parsed.extend, resumed, sameConfig, sameMap, sameSize]
  unfold feedStep
  simp only [offered, ok_bind, ← cut, stored]
  generalize FrameAssembler.feed _ chunk.length = fed at feeds
  cases fed with
  | error fault =>
      obtain ⟨n, few, faulted⟩ := feeds
      have front := next n few
      rw [faulted] at front
      have split := @parse_append (FrameAssembler.packetFrame origin.ipConfig origin.ipMap)
        origin.bufferSize 0 (stream.take (feeding.position + n))
        (stream.drop (feeding.position + n))
      rw [List.take_append_drop, front] at split
      simpa [Parsed.extend, Parsed.after] using split
  | ok fed =>
      obtain ⟨after, n, result⟩ := fed
      obtain ⟨few, moves, pending', skip', keeps', behind', config', map', size', result'⟩ := feeds
      refine ⟨⟨⟨config'.trans sameConfig, map'.trans sameMap, size'.trans sameSize⟩, ?_, pending',
        skip', keeps', ?_, ?_⟩, ?_, ?_⟩
      · change feeding.position + n ≤ stream.length
        omega
      · change pending'.length ≤ feeding.position + n
        omega
      · have front := next n few
        rw [result'] at front
        exact front
      · exact Nat.le_add_right _ _
      · intro asked left
        have := moves (by omega)
        change feeding.position < feeding.position + n
        omega

/-- A run without a fault follows the parse, and gets to the end with feeds of a byte or
    more; a fault is one of the parse. -/
theorem feedAll_follows (ks : List Nat) (follows : Follows origin stream feeding) :
    ((feedAll stream ks feeding).2 = none →
      Follows origin stream (feedAll stream ks feeding).1 ∧
      ((∀ k ∈ ks, 0 < k) → stream.length ≤ feeding.position + ks.length →
        (feedAll stream ks feeding).1.position = stream.length)) ∧
    ∀ fault, (feedAll stream ks feeding).2 = some fault →
      parse (FrameAssembler.packetFrame origin.ipConfig origin.ipMap) origin.bufferSize 0 stream =
        ⟨(feedAll stream ks feeding).1.events, (feedAll stream ks feeding).1.dropped,
          .error fault⟩ := by
  induction ks generalizing feeding with
  | nil =>
      constructor
      · intro running
        refine ⟨follows, fun _ enough => ?_⟩
        have inside := follows.inside
        simp only [List.length_nil, Nat.add_zero] at enough
        exact Nat.le_antisymm inside enough
      · intro fault faulted
        cases faulted
  | cons k ks ih =>
      have step := feedStep_follows follows k
      unfold feedAll
      cases stepped : feedStep stream feeding k with
      | error fault =>
          rw [stepped] at step
          constructor
          · intro running
            cases running
          · intro fault' faulted
            cases faulted
            exact step
      | ok next =>
          rw [stepped] at step
          obtain ⟨follows', forward, progress⟩ := step
          obtain ⟨runs, faults⟩ := ih follows'
          refine ⟨fun running => ⟨(runs running).1, fun positive enough => ?_⟩, faults⟩
          have inside := follows'.inside
          have moved := progress (positive k List.mem_cons_self)
          simp only [List.length_cons] at enough
          exact (runs running).2 (fun k' member => positive k' (List.mem_cons_of_mem _ member))
            (by omega)

/-- What a run reports comes first in what the parse of the whole stream reports. -/
theorem feedAll_events_prefix (ks : List Nat) (follows : Follows origin stream feeding) :
    (feedAll stream ks feeding).1.events <+:
      (parse (FrameAssembler.packetFrame origin.ipConfig origin.ipMap) origin.bufferSize 0
        stream).events := by
  obtain ⟨runs, faults⟩ := feedAll_follows ks follows
  cases ending : (feedAll stream ks feeding).2 with
  | some fault =>
      exact faults fault ending ▸ List.prefix_refl _
  | none =>
      obtain ⟨pending, skip, -, -, consumed⟩ := (runs ending).1.parsed
      have front := @parse_events_front (FrameAssembler.packetFrame origin.ipConfig origin.ipMap)
        origin.bufferSize 0 (stream.take (feedAll stream ks feeding).1.position)
        (stream.drop (feedAll stream ks feeding).1.position)
      rw [List.take_append_drop, consumed] at front
      exact front

/-- Before the first feed. -/
theorem create_follows {maxPacketSize : UInt16} {assembler : FrameAssembler}
    (created : FrameAssembler.create maxPacketSize ipConfig ipMap = .ok assembler)
    (stream : List UInt8) :
    Follows assembler stream ⟨assembler, 0, [], []⟩ ∧ assembler.ipConfig = ipConfig ∧
      assembler.ipMap = ipMap ∧ assembler.bufferSize = maxPacketSize.toNat := by
  unfold FrameAssembler.create at created
  split at created
  · cases created
  · next roomy =>
      cases created
      refine ⟨?_, rfl, rfl, rfl⟩
      exact
        { same := ⟨rfl, rfl, rfl⟩
          inside := Nat.zero_le _
          parsed := ⟨[], 0, keeps_nothing (by simp) (Nat.not_lt.mp roomy) rfl rfl rfl, le_rfl,
            parse_short (by simp) 0⟩ }

/-- The first byte of a compressed packet has its high bit set. -/
def IsCompressed (packet : List UInt8) : Prop :=
  (packet.getD 0 0).toNat &&& packetIsCompressed ≠ 0

/-- Without a map, an uncompressed packet is its own frame. -/
theorem packetFrame_uncompressed {packet frame : List UInt8} (plain : ¬ IsCompressed packet)
    (emits : FrameAssembler.packetFrame ipConfig none packet = .ok (.ok frame)) :
    frame = packet := by
  cases packet with
  | nil => simp [FrameAssembler.packetFrame, load] at emits
  | cons first rest =>
      have firstByte : load (first :: rest) 0 = .ok first := rfl
      have clear : ¬ first.toNat &&& packetIsCompressed ≠ 0 := plain
      simp only [FrameAssembler.packetFrame, firstByte, ok_bind, clear, if_false, pure_ok] at emits
      simpa using emits.symm

/-- Whatever the sizes of the feeds, the assembler reports the frames, errors and drops of
    one parse of the bytes it has consumed, at the same positions. A fault is one that the
    parse of the stream comes to as well. Feeds of at least a byte get to the end of the
    stream, and an uncompressed frame is a substring of it. -/
theorem feedAll_is_parse (maxPacketSize : UInt16) (ipConfig : Option IpConfig)
    (stream : List UInt8) (ks : List Nat) {assembler : FrameAssembler}
    (created : FrameAssembler.create maxPacketSize ipConfig none = .ok assembler) :
    let run := feedAll stream ks ⟨assembler, 0, [], []⟩
    let parsed := parse (FrameAssembler.packetFrame ipConfig none) maxPacketSize.toNat 0
    (run.2 = none →
      run.1.events = (parsed (stream.take run.1.position)).events ∧
      run.1.dropped = (parsed (stream.take run.1.position)).dropped ∧
      ((∀ k ∈ ks, 0 < k) → stream.length ≤ ks.length → run.1.position = stream.length)) ∧
    (∀ fault, run.2 = some fault →
      parsed stream = ⟨run.1.events, run.1.dropped, .error fault⟩) ∧
    ∀ at_ frame, (at_, .ok frame) ∈ run.1.events →
      ∃ start size, start + size = at_ ∧ at_ ≤ stream.length ∧
        size = announced (stream.drop start) ∧
        (¬ IsCompressed ((stream.drop start).take size) →
          frame = (stream.drop start).take size) := by
  intro run parsed
  obtain ⟨start, rfl, noMap, size⟩ := create_follows created stream
  obtain ⟨runs, faults⟩ := feedAll_follows ks start
  have reports := feedAll_events_prefix ks start
  rw [noMap, size] at faults reports
  refine ⟨fun running => ?_, faults, fun at_ frame reported => ?_⟩
  · obtain ⟨follows, ends⟩ := runs running
    obtain ⟨pending, skip, -, -, consumed⟩ := follows.parsed
    rw [noMap, size] at consumed
    refine ⟨(congrArg Parsed.events consumed).symm, (congrArg Parsed.dropped consumed).symm,
      fun positive enough => ends positive ?_⟩
    simpa using enough
  · obtain ⟨start, size, place, inside, announces, emits⟩ :=
      parse_frames 0 stream (reports.subset reported)
    exact ⟨start, size, by omega, by omega, announces,
      fun plain => packetFrame_uncompressed plain emits⟩

/-- A header without options, and no payload. -/
def barePacket : List UInt8 := [0x45, 0, 0, 20] ++ List.replicate 16 0

/-- The packet in feeds of 1, 2, 3 and then all the bytes. -/
theorem feedAll_barePacket :
    let run := feedAll barePacket [1, 2, 3, 100]
      ⟨⟨none, none, 0, 0, 0, 20, List.replicate 20 0⟩, 0, [], []⟩
    run.2 = none ∧ run.1.events = [(20, .ok barePacket)] ∧
      run.1.events =
        (parse (FrameAssembler.packetFrame none none) 20 0 (barePacket.take run.1.position)).events :=
  ⟨rfl, rfl, ((feedAll_is_parse 20 none barePacket [1, 2, 3, 100] rfl).1 rfl).1⟩

end GoldenGate.Ipv4
