import GoldenGate.Remote.SerialParser

/-! # What a frame on the line becomes

A frame that follows other characters is received when these have not run over the buffer and
leave no ack unfinished: the first characters of the frame would go to that ack, and would be
missing in the length of the frame.
-/

namespace GoldenGate.Remote

open Memory Base64

/-! ## What the characters before a frame leave behind -/

/-- How many characters the last ack still waits for. -/
def ackLeft : Nat → List UInt8 → Nat
  | left, [] => left
  | left, c :: rest =>
      if c = ackFrameStartByte then ackLeft seqFramedLen rest
      else if c = frameStartByte ∨ c = frameEndByte then ackLeft left rest
      else ackLeft (left - 1) rest

/-- Whether a frame that is not at its end has more characters than the buffer, counted from
    the last start byte. -/
def overruns : Bool → Nat → List UInt8 → Bool
  | _, _, [] => false
  | framing, used, c :: rest =>
      if c = ackFrameStartByte then overruns framing 1 rest
      else if c = frameStartByte then overruns true 1 rest
      else if framing then used ≥ maxFrameLen || overruns (c ≠ frameEndByte) (used + 1) rest
      else overruns false used rest

/-- Neither a delimiter nor the shell exit. -/
def Plain (c : UInt8) : Prop :=
  c ≠ ackFrameStartByte ∧ c ≠ frameStartByte ∧ c ≠ frameEndByte ∧ c ≠ shellExit

instance (c : UInt8) : Decidable (Plain c) := inferInstanceAs (Decidable (_ ∧ _ ∧ _ ∧ _))

/-- The parser waits for `left` characters of an ack. -/
structure Acking (parser : SerialRemoteParser) (left : Nat) : Prop where
  few : left ≤ seqFramedLen
  started : parser.ackParsingStarted = decide (left ≠ 0)
  len : left ≠ 0 → parser.ackFrameLen + left = ackFrameLen

/-- The parser after characters of any kind. The buffer is nearly empty while an ack is read. -/
structure Tracks (parser : SerialRemoteParser) (framing : Bool) (used left : Nat) : Prop where
  buffer : parser.buffer.length = maxFrameLen
  framed : parser.frameParsingStarted = framing
  index : framing = true → parser.bufferIdx = used
  acking : Acking parser left
  near : left ≠ 0 → parser.bufferIdx + left ≤ ackFrameLen + if framing then 0 else 1

theorem reset_tracks : Tracks .reset false 0 0 where
  buffer := List.length_replicate
  framed := rfl
  index h := by cases h
  acking := ⟨Nat.zero_le _, rfl, fun h => absurd rfl h⟩
  near h := absurd rfl h

/-! ## One character -/

/-- The parser with one more character in its buffer. -/
def stored (parser : SerialRemoteParser) (c : UInt8) : SerialRemoteParser :=
  { parser with
    buffer := parser.buffer.take parser.bufferIdx ++ [c] ++ parser.buffer.drop (parser.bufferIdx + 1)
    bufferIdx := parser.bufferIdx + 1 }

theorem append_ok {parser : SerialRemoteParser} (room : parser.bufferIdx < parser.buffer.length) (c : UInt8) :
    parser.append c = .ok (stored parser c) := by
  rw [SerialRemoteParser.append, store, if_pos (by rw [List.length_singleton]; omega)]
  rfl

theorem append_full {parser : SerialRemoteParser} (full : parser.buffer.length ≤ parser.bufferIdx) (c : UInt8) :
    parser.append c = .error .outOfBounds := by
  rw [SerialRemoteParser.append, store, if_neg (by rw [List.length_singleton]; omega)]
  rfl

theorem stored_length {parser : SerialRemoteParser} (room : parser.bufferIdx < parser.buffer.length) (c : UInt8) :
    (stored parser c).buffer.length = parser.buffer.length := by
  simp only [stored, List.length_append, List.length_take, List.length_singleton, List.length_drop]
  omega

section PutData

variable {parser : SerialRemoteParser}

theorem putData_ackStart (room : 0 < parser.buffer.length) :
    parser.putData ackFrameStartByte =
      .ok ({ stored { parser with bufferIdx := 0 } ackFrameStartByte with
        ackParsingStarted := true, ackParsingComplete := false, ackFrameLen := 1 }, .ok ()) := by
  rw [SerialRemoteParser.putData, if_pos rfl, append_ok room]
  rfl

theorem putData_frameStart (room : 0 < parser.buffer.length) :
    parser.putData frameStartByte =
      .ok ({ stored { parser with bufferIdx := 0 } frameStartByte with
        frameParsingStarted := true, frameParsingComplete := false, frameLen := 1 }, .ok ()) := by
  rw [SerialRemoteParser.putData, if_neg (by decide), if_pos rfl, append_ok room]
  rfl

theorem putData_frameEnd :
    parser.putData frameEndByte =
      if parser.frameParsingStarted then do
        let parser' ← parser.append frameEndByte
        return ({ parser' with
          frameLen := parser'.frameLen + 1
          frameParsingStarted := false
          frameParsingComplete := true }, .ok ())
      else .ok (parser, .ok ()) := by
  rw [SerialRemoteParser.putData, if_neg (by decide), if_neg (by decide), if_pos rfl]

/-- A plain character that an ack takes. -/
theorem putData_ack {c : UInt8} (plain : Plain c) (started : parser.ackParsingStarted = true)
    (room : parser.bufferIdx < parser.buffer.length) :
    parser.putData c =
      .ok ({ stored parser c with
        ackFrameLen := parser.ackFrameLen + 1
        ackParsingStarted := decide (parser.ackFrameLen + 1 < ackFrameLen)
        ackParsingComplete := decide (ackFrameLen ≤ parser.ackFrameLen + 1) || parser.ackParsingComplete },
        .ok ()) := by
  rw [SerialRemoteParser.putData, if_neg plain.1, if_neg plain.2.1, if_neg plain.2.2.1, if_neg plain.2.2.2,
    if_pos started, append_ok room, ok_bind]
  by_cases last : ackFrameLen ≤ parser.ackFrameLen + 1
  · rw [decide_eq_false (Nat.not_lt.mpr last), decide_eq_true last]
    exact if_pos last
  · rw [decide_eq_true (Nat.lt_of_not_le last), decide_eq_false last]
    refine (if_neg last).trans ?_
    rw [← started]
    rfl

/-- A plain character that a frame takes. -/
theorem putData_frame {c : UInt8} (plain : Plain c) (idle : parser.ackParsingStarted = false)
    (started : parser.frameParsingStarted = true) :
    parser.putData c = do
      let parser' ← parser.append c
      return ({ parser' with
        frameLen := parser'.frameLen + 1
        payloadLen := if c = framePayloadEndByte then parser'.frameLen + 1 - 2 else parser'.payloadLen }, .ok ()) := by
  rw [SerialRemoteParser.putData, if_neg plain.1, if_neg plain.2.1, if_neg plain.2.2.1, if_neg plain.2.2.2,
    if_neg (by simp [idle]), if_pos started]
  by_cases finish : c = framePayloadEndByte
  · simp only [finish, if_true]
  · simp only [if_neg finish]

theorem putData_ignored {c : UInt8} (plain : Plain c) (idle : parser.ackParsingStarted = false)
    (out : parser.frameParsingStarted = false) : parser.putData c = .ok (parser, .ok ()) := by
  rw [SerialRemoteParser.putData, if_neg plain.1, if_neg plain.2.1, if_neg plain.2.2.1, if_neg plain.2.2.2,
    if_neg (by simp [idle]), if_neg (by simp [out])]

end PutData

/-! ## The characters before a frame -/

section Step

variable {parser : SerialRemoteParser} {framing : Bool} {used left : Nat} (tracks : Tracks parser framing used left)
include tracks

theorem Tracks.room_start : 0 < parser.buffer.length := by
  rw [tracks.buffer]
  decide

theorem Tracks.room_ack (waiting : left ≠ 0) : parser.bufferIdx < parser.buffer.length := by
  have near := tracks.near waiting
  rw [tracks.buffer]
  simp only [ackFrameLen, seqFramedLen] at near
  simp only [maxFrameLen]
  split_ifs at near <;> omega

theorem Tracks.ackStart : ∃ parser', parser.putData ackFrameStartByte = .ok (parser', .ok ()) ∧
    Tracks parser' framing 1 seqFramedLen :=
  ⟨_, putData_ackStart tracks.room_start,
    ⟨(stored_length tracks.room_start ackFrameStartByte).trans tracks.buffer, tracks.framed, fun _ => rfl,
      ⟨le_refl _, rfl, fun _ => rfl⟩, fun _ => Nat.le_add_right _ _⟩⟩

theorem Tracks.frameStart : ∃ parser', parser.putData frameStartByte = .ok (parser', .ok ()) ∧
    Tracks parser' true 1 left ∧ parser'.frameParsingComplete = false ∧ parser'.frameLen = 1 ∧
      parser'.buffer.take 1 = [frameStartByte] := by
  have few := tracks.acking.few
  refine ⟨_, putData_frameStart tracks.room_start,
    ⟨(stored_length tracks.room_start frameStartByte).trans tracks.buffer, rfl, fun _ => rfl,
      ⟨few, tracks.acking.started, tracks.acking.len⟩, fun _ => ?_⟩, rfl, rfl, rfl⟩
  change 1 + left ≤ 1 + seqFramedLen
  omega

theorem Tracks.frameEnd (inside : framing = true → used < maxFrameLen) :
    ∃ parser', parser.putData frameEndByte = .ok (parser', .ok ()) ∧ Tracks parser' false (used + 1) left := by
  rw [putData_frameEnd, tracks.framed]
  cases framing with
  | false => exact ⟨parser, rfl, tracks.buffer, tracks.framed, (fun h => by cases h), tracks.acking, tracks.near⟩
  | true =>
      have room : parser.bufferIdx < parser.buffer.length := by
        rw [tracks.buffer, tracks.index rfl]
        exact inside rfl
      rw [if_pos rfl, append_ok room]
      refine ⟨_, rfl, ⟨(stored_length room frameEndByte).trans tracks.buffer, rfl, (fun h => by cases h),
        ⟨tracks.acking.few, tracks.acking.started, tracks.acking.len⟩, fun waiting => ?_⟩⟩
      have near := tracks.near waiting
      change parser.bufferIdx + left ≤ ackFrameLen at near
      change parser.bufferIdx + 1 + left ≤ ackFrameLen + 1
      omega

theorem Tracks.plain_ack {c : UInt8} (plain : Plain c) (waiting : left ≠ 0) :
    ∃ parser', parser.putData c = .ok (parser', .ok ()) ∧ Tracks parser' framing (used + 1) (left - 1) ∧
      parser'.buffer = (stored parser c).buffer ∧ parser'.bufferIdx = parser.bufferIdx + 1 ∧
      parser'.frameLen = parser.frameLen ∧ parser'.frameParsingComplete = parser.frameParsingComplete := by
  have room := tracks.room_ack waiting
  have near := tracks.near waiting
  have len := tracks.acking.len waiting
  have few := tracks.acking.few
  have started : parser.ackParsingStarted = true := by rw [tracks.acking.started]; simp [waiting]
  refine ⟨_, putData_ack plain started room, ⟨(stored_length room c).trans tracks.buffer, tracks.framed,
    fun h => congrArg (· + 1) (tracks.index h), ⟨by omega, ?_, fun _ => ?_⟩, fun _ => ?_⟩, rfl, rfl, rfl, rfl⟩
  · exact decide_eq_decide.mpr (by omega)
  · change parser.ackFrameLen + 1 + (left - 1) = ackFrameLen
    omega
  · change parser.bufferIdx + 1 + (left - 1) ≤ _
    omega

theorem Tracks.plain_frame {c : UInt8} (plain : Plain c) (none_ : left = 0) (inside : framing = true) :
    if used < maxFrameLen then
      ∃ parser', parser.putData c = .ok (parser', .ok ()) ∧ Tracks parser' true (used + 1) 0 ∧
        parser'.buffer = (stored parser c).buffer ∧ parser'.bufferIdx = parser.bufferIdx + 1 ∧
        parser'.frameLen = parser.frameLen + 1 ∧ parser'.frameParsingComplete = parser.frameParsingComplete ∧
        parser'.payloadLen = if c = framePayloadEndByte then parser.frameLen + 1 - 2 else parser.payloadLen
    else parser.putData c = .error .outOfBounds := by
  subst none_ inside
  have idle : parser.ackParsingStarted = false := tracks.acking.started
  have index := tracks.index rfl
  rw [putData_frame plain idle tracks.framed]
  by_cases small : used < maxFrameLen
  · have room : parser.bufferIdx < parser.buffer.length := by rw [tracks.buffer, index]; exact small
    rw [if_pos small, append_ok room]
    exact ⟨_, rfl, ⟨(stored_length room c).trans tracks.buffer, tracks.framed, fun _ => congrArg (· + 1) index,
      ⟨Nat.zero_le _, idle, fun h => absurd rfl h⟩, fun h => absurd rfl h⟩, rfl, rfl, rfl, rfl, rfl⟩
  · rw [if_neg small, append_full (by rw [tracks.buffer, index]; omega)]
    rfl

end Step

theorem feed_cons {parser parser' : SerialRemoteParser} {c : UInt8} {result : Except Error Unit}
    (h : parser.putData c = .ok (parser', result)) (rest : List UInt8) : parser.feed (c :: rest) = parser'.feed rest := by
  rw [SerialRemoteParser.feed, h]
  rfl

theorem feed_error {parser : SerialRemoteParser} {c : UInt8} {fault : Fault} (h : parser.putData c = .error fault)
    (rest : List UInt8) : parser.feed (c :: rest) = .error fault := by
  rw [SerialRemoteParser.feed, h]
  rfl

theorem feed_append (parser : SerialRemoteParser) (first second : List UInt8) :
    parser.feed (first ++ second) = (parser.feed first).bind fun parser' => parser'.feed second := by
  induction first generalizing parser with
  | nil => rfl
  | cons c rest ih =>
      rw [List.cons_append, SerialRemoteParser.feed, SerialRemoteParser.feed]
      cases parser.putData c with
      | error fault => rfl
      | ok result => exact ih result.1

/-- How many characters are in the buffer does not matter outside a frame. -/
theorem Tracks.outside {parser : SerialRemoteParser} {used left : Nat} (tracks : Tracks parser false used left)
    (used' : Nat) : Tracks parser false used' left :=
  ⟨tracks.buffer, tracks.framed, (fun h => by cases h), tracks.acking, tracks.near⟩

theorem overruns_outside {c : UInt8} (notAck : c ≠ ackFrameStartByte) (notStart : c ≠ frameStartByte) (used : Nat)
    (rest : List UInt8) : overruns false used (c :: rest) = overruns false used rest := by
  rw [overruns, if_neg notAck, if_neg notStart]
  rfl

theorem overruns_inside {c : UInt8} (notAck : c ≠ ackFrameStartByte) (notStart : c ≠ frameStartByte) {used : Nat}
    (small : used < maxFrameLen) (rest : List UInt8) :
    overruns true used (c :: rest) = overruns (c ≠ frameEndByte) (used + 1) rest := by
  rw [overruns, if_neg notAck, if_neg notStart, if_pos rfl, decide_eq_false (by omega), Bool.false_or]

theorem overruns_full {c : UInt8} (notAck : c ≠ ackFrameStartByte) (notStart : c ≠ frameStartByte) {used : Nat}
    (full : maxFrameLen ≤ used) (rest : List UInt8) : overruns true used (c :: rest) = true := by
  rw [overruns, if_neg notAck, if_neg notStart, if_pos rfl, decide_eq_true full, Bool.true_or]

theorem ackLeft_plain {c : UInt8} (plain : Plain c) (left : Nat) (rest : List UInt8) :
    ackLeft left (c :: rest) = ackLeft (left - 1) rest := by
  rw [ackLeft, if_neg plain.1, if_neg (not_or.mpr ⟨plain.2.1, plain.2.2.1⟩)]

/-- What the characters before a frame leave of a parser. -/
def Leaves (parser : SerialRemoteParser) (framing : Bool) (used left : Nat) (before : List UInt8) : Prop :=
  if overruns framing used before then parser.feed before = .error .outOfBounds
  else ∃ parser' framing' used', parser.feed before = .ok parser' ∧
    Tracks parser' framing' used' (ackLeft left before)

theorem Leaves.cons {parser parser' : SerialRemoteParser} {framing framing' : Bool} {used used' left left' : Nat}
    {c : UInt8} {rest : List UInt8} {result : Except Error Unit} (put : parser.putData c = .ok (parser', result))
    (overrun : overruns framing used (c :: rest) = overruns framing' used' rest)
    (acks : ackLeft left (c :: rest) = ackLeft left' rest) (h : Leaves parser' framing' used' left' rest) :
    Leaves parser framing used left (c :: rest) := by
  rw [Leaves, overrun, acks, feed_cons put]
  exact h

theorem Leaves.stops {parser : SerialRemoteParser} {framing : Bool} {used left : Nat} {c : UInt8} {rest : List UInt8}
    (put : parser.putData c = .error .outOfBounds) (overrun : overruns framing used (c :: rest) = true) :
    Leaves parser framing used left (c :: rest) := by
  rw [Leaves, overrun, if_pos rfl]
  exact feed_error put rest

/-- The run lemma for the characters before a frame. -/
theorem feed_before (before : List UInt8) (noExit : shellExit ∉ before) (parser : SerialRemoteParser)
    (framing : Bool) (used left : Nat) (tracks : Tracks parser framing used left) :
    Leaves parser framing used left before := by
  induction before generalizing parser framing used left with
  | nil => exact ⟨parser, framing, used, rfl, tracks⟩
  | cons c rest ih =>
      have next := ih fun member => noExit (List.mem_cons_of_mem c member)
      have different : c ≠ shellExit := fun same => noExit (same ▸ List.mem_cons_self)
      by_cases ack : c = ackFrameStartByte
      · obtain ⟨parser', put, tracks'⟩ := tracks.ackStart
        subst ack
        exact .cons put (if_pos rfl) (if_pos rfl) (next parser' framing 1 seqFramedLen tracks')
      by_cases start : c = frameStartByte
      · obtain ⟨parser', put, tracks', -⟩ := tracks.frameStart
        subst start
        exact .cons put rfl rfl (next parser' true 1 left tracks')
      by_cases finish : c = frameEndByte
      · subst finish
        cases framing with
        | false =>
            obtain ⟨parser', put, tracks'⟩ := tracks.frameEnd fun h => by cases h
            exact .cons put (overruns_outside ack start used rest) rfl (next parser' false used left (tracks'.outside used))
        | true =>
            by_cases small : used < maxFrameLen
            · obtain ⟨parser', put, tracks'⟩ := tracks.frameEnd fun _ => small
              exact .cons put (overruns_inside ack start small rest) rfl (next parser' false (used + 1) left tracks')
            · refine .stops ?_ (overruns_full ack start (by omega) rest)
              rw [putData_frameEnd, tracks.framed, if_pos rfl,
                append_full (by rw [tracks.buffer, tracks.index rfl]; omega)]
              rfl
      have plain : Plain c := ⟨ack, start, finish, different⟩
      have acks := ackLeft_plain plain left rest
      by_cases waiting : left ≠ 0
      · obtain ⟨parser', put, tracks', -⟩ := tracks.plain_ack plain waiting
        cases framing with
        | false =>
            exact .cons put (overruns_outside ack start used rest) acks
              (next parser' false used (left - 1) (tracks'.outside used))
        | true =>
            have small : used < maxFrameLen := by
              rw [← tracks.index rfl, ← tracks.buffer]
              exact tracks.room_ack waiting
            have overrun := overruns_inside ack start small rest
            rw [decide_eq_true finish] at overrun
            exact .cons put overrun acks (next parser' true (used + 1) (left - 1) tracks')
      have none_ : left = 0 := not_not.mp waiting
      cases framing with
      | false =>
          have idle : parser.ackParsingStarted = false := by rw [tracks.acking.started, none_]; rfl
          subst none_
          exact .cons (putData_ignored plain idle tracks.framed) (overruns_outside ack start used rest) acks
            (next parser false used 0 tracks)
      | true =>
          have put := tracks.plain_frame plain none_ rfl
          by_cases small : used < maxFrameLen
          · rw [if_pos small] at put
            obtain ⟨parser', put, tracks', -⟩ := put
            have overrun := overruns_inside ack start small rest
            rw [decide_eq_true finish] at overrun
            subst none_
            exact .cons put overrun acks (next parser' true (used + 1) 0 tracks')
          · rw [if_neg small] at put
            exact .stops put (overruns_full ack start (by omega) rest)

/-! ## The characters of a frame -/

/-- The parser has the first characters of a frame, some of which have gone to an ack. -/
structure InFrame (parser : SerialRemoteParser) (done : List UInt8) (left : Nat) : Prop where
  tracks : Tracks parser true done.length left
  content : parser.buffer.take done.length = done

theorem stored_take {parser : SerialRemoteParser} (room : parser.bufferIdx < parser.buffer.length) (c : UInt8) :
    (stored parser c).buffer.take (parser.bufferIdx + 1) = parser.buffer.take parser.bufferIdx ++ [c] := by
  have size : (parser.buffer.take parser.bufferIdx ++ [c]).length = parser.bufferIdx + 1 := by
    rw [List.length_append, List.length_take, List.length_singleton, Nat.min_eq_left (by omega)]
  exact List.take_left' size

theorem InFrame.room {parser : SerialRemoteParser} {done : List UInt8} {left : Nat} (inFrame : InFrame parser done left)
    (fits : done.length < maxFrameLen) : parser.bufferIdx < parser.buffer.length := by
  rw [inFrame.tracks.buffer, inFrame.tracks.index rfl]
  exact fits

theorem InFrame.content_stored {parser parser' : SerialRemoteParser} {done : List UInt8} {left : Nat} {c : UInt8}
    (inFrame : InFrame parser done left) (fits : done.length < maxFrameLen)
    (buffer : parser'.buffer = (stored parser c).buffer) : parser'.buffer.take (done ++ [c]).length = done ++ [c] := by
  have index := inFrame.tracks.index rfl
  have content := stored_take (inFrame.room fits) c
  rw [index, inFrame.content] at content
  rw [buffer, List.length_append]
  exact content

/-- A plain character comes into the buffer, and into the length when no ack takes it. -/
theorem InFrame.plain {parser : SerialRemoteParser} {done : List UInt8} {left : Nat} (inFrame : InFrame parser done left)
    {c : UInt8} (plain : Plain c) (fits : done.length < maxFrameLen) :
    ∃ parser', parser.putData c = .ok (parser', .ok ()) ∧ InFrame parser' (done ++ [c]) (left - 1) ∧
      parser'.frameLen = parser.frameLen + (1 - left) ∧
      (left = 0 → parser'.payloadLen = if c = framePayloadEndByte then parser.frameLen + 1 - 2 else parser.payloadLen) := by
  have length : done.length + 1 = (done ++ [c]).length := by rw [List.length_append]; rfl
  by_cases waiting : left ≠ 0
  · obtain ⟨parser', put, tracks, buffer, -, frameLen, -⟩ := inFrame.tracks.plain_ack plain waiting
    rw [length] at tracks
    exact ⟨parser', put, ⟨tracks, inFrame.content_stored fits buffer⟩, by omega, fun none_ => absurd none_ waiting⟩
  · have put := inFrame.tracks.plain_frame plain (not_not.mp waiting) rfl
    rw [if_pos fits] at put
    obtain ⟨parser', put, tracks, buffer, -, frameLen, -, payloadLen⟩ := put
    rw [length] at tracks
    have none_ : left - 1 = 0 := by omega
    rw [none_]
    exact ⟨parser', put, ⟨tracks, inFrame.content_stored fits buffer⟩, by omega, fun _ => payloadLen⟩

/-- The run lemma for the characters of a frame. -/
theorem InFrame.feed_plain (chars : List UInt8) (plain : ∀ c ∈ chars, Plain c) (parser : SerialRemoteParser)
    (done : List UInt8) (left : Nat) (inFrame : InFrame parser done left) (fits : done.length + chars.length ≤ maxFrameLen) :
    ∃ parser', parser.feed chars = .ok parser' ∧ InFrame parser' (done ++ chars) (left - chars.length) ∧
      parser'.frameLen = parser.frameLen + (chars.length - left) ∧
      (left = 0 → framePayloadEndByte ∉ chars → parser'.payloadLen = parser.payloadLen) := by
  induction chars generalizing parser done left with
  | nil =>
      rw [List.append_nil]
      exact ⟨parser, rfl, inFrame, by simp, fun _ _ => rfl⟩
  | cons c rest ih =>
      rw [List.length_cons] at fits
      obtain ⟨between, put, inFrame', frameLen, payloadLen⟩ := inFrame.plain (plain c List.mem_cons_self) (by omega)
      obtain ⟨parser', feed, inFrame'', frameLen', payloadLen'⟩ :=
        ih (fun other member => plain other (List.mem_cons_of_mem c member)) between (done ++ [c]) (left - 1) inFrame'
          (by rw [List.length_append, List.length_singleton]; omega)
      rw [List.append_assoc, List.singleton_append, Nat.sub_sub, Nat.add_comm 1 rest.length] at inFrame''
      refine ⟨parser', (feed_cons put rest).trans feed, inFrame'', ?_, fun none_ other => ?_⟩
      · rw [List.length_cons]
        omega
      · rw [payloadLen' (by omega) (fun member => other (List.mem_cons_of_mem c member)), payloadLen none_,
          if_neg fun same : c = framePayloadEndByte => other (same ▸ List.mem_cons_self)]

/-- The end of a frame. -/
theorem InFrame.finish {parser : SerialRemoteParser} {done : List UInt8} {left : Nat} (inFrame : InFrame parser done left)
    (fits : done.length < maxFrameLen) :
    ∃ parser', parser.feed [frameEndByte] = .ok parser' ∧ parser'.frameParsingComplete = true ∧
      parser'.frameLen = parser.frameLen + 1 ∧ parser'.payloadLen = parser.payloadLen ∧
      ∃ room, parser'.buffer = done ++ [frameEndByte] ++ room := by
  have room := inFrame.room fits
  have put := @putData_frameEnd parser
  rw [if_pos inFrame.tracks.framed, append_ok room] at put
  refine ⟨_, feed_cons put [], rfl, rfl, rfl, parser.buffer.drop (parser.bufferIdx + 1), ?_⟩
  have index := inFrame.tracks.index rfl
  have content := inFrame.content
  rw [← index] at content
  change parser.buffer.take parser.bufferIdx ++ [frameEndByte] ++ _ = _
  rw [content]

theorem createFrame_eq (payload crc seq : List UInt8) :
    createFrame payload crc seq =
      frameStartByte :: (payload ++ framePayloadEndByte :: (crc ++ seq) ++ [frameEndByte]) := by
  simp [createFrame]

/-- A whole frame is in the buffer. An unfinished ack is missing in its length. -/
theorem feed_frame {parser : SerialRemoteParser} {framing : Bool} {used left : Nat}
    (tracks : Tracks parser framing used left) {payload crc seq : List UInt8} (plainPayload : ∀ c ∈ payload, Plain c)
    (plainTail : ∀ c ∈ crc ++ seq, Plain c) (noEnd : framePayloadEndByte ∉ crc ++ seq)
    (tail : (crc ++ seq).length = crcFramedLen + seqFramedLen)
    (fits : (createFrame payload crc seq).length ≤ maxFrameLen) :
    ∃ parser', parser.feed (createFrame payload crc seq) = .ok parser' ∧ parser'.frameParsingComplete = true ∧
      parser'.frameLen + left = payload.length + minFrameLen ∧ (left = 0 → parser'.payloadLen = payload.length) ∧
      ∃ room, parser'.buffer = createFrame payload crc seq ++ room := by
  have few := tracks.acking.few
  rw [createFrame_eq] at fits ⊢
  simp only [List.length_cons, List.length_append, List.length_nil, maxFrameLen] at fits
  simp only [List.length_append, crcFramedLen, seqFramedLen] at tail
  obtain ⟨p0, put, tracks0, -, len0, content0⟩ := tracks.frameStart
  have start : InFrame p0 [frameStartByte] left := ⟨tracks0, content0⟩
  obtain ⟨p1, feed1, in1, len1, payload1⟩ := InFrame.feed_plain payload plainPayload p0 _ left start
    (by simp only [List.length_singleton, maxFrameLen]; omega)
  obtain ⟨p2, put2, in2, len2, payload2⟩ := in1.plain (show Plain framePayloadEndByte by decide)
    (by simp only [List.length_append, List.length_singleton, maxFrameLen]; omega)
  obtain ⟨p3, feed3, in3, len3, payload3⟩ := InFrame.feed_plain (crc ++ seq) plainTail p2 _ _ in2
    (by simp only [List.length_append, List.length_singleton, maxFrameLen]; omega)
  obtain ⟨p4, feed4, complete, len4, payload4, room, content⟩ := in3.finish
    (by simp only [List.length_append, List.length_singleton, maxFrameLen]; omega)
  refine ⟨p4, ?_, complete, ?_, fun none_ => ?_, room, ?_⟩
  · rw [feed_cons put, List.append_assoc, feed_append, feed1]
    change p1.feed (framePayloadEndByte :: ((crc ++ seq) ++ [frameEndByte])) = _
    rw [feed_cons put2, feed_append, feed3]
    exact feed4
  · rw [List.length_append] at len3
    simp only [minFrameLen, crcFramedLen, seqFramedLen] at few ⊢
    omega
  · rw [payload4, payload3 (by omega) noEnd, payload2 (by omega), if_pos rfl, len1, len0]
    omega
  · rw [content]
    simp

end GoldenGate.Remote
