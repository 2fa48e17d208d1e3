import GoldenGate.Remote.ParserBounds

/-! # The frames that are acknowledged

The loop of `SerialTransport_ReadFrame`. The validation finds the CRC from the end of a frame and
does not look for the end of the payload, while the payload and the sequence number are found by the
last payload end that came in.
-/

namespace GoldenGate.Remote

open Memory Base64

/-- What becomes of a frame: the parser is cleared and the loop goes on, or it has what it decodes to, if
    anything, or it has left an object. -/
inductive FrameOutcome where
  | cleared
  | delivered (data : Option (List UInt8))
  | undefined (fault : Fault)
  deriving DecidableEq

/-- A frame that `SerialIO_ReadFrame` has returned, or that has run over the buffer: the characters since the parser
    was cleared, the parser, the payload, the ack that is sent, and what becomes of it. -/
structure HandledFrame where
  received : List UInt8
  parser : SerialRemoteParser
  payload : Option (List UInt8)
  sent : Option (List UInt8)
  outcome : FrameOutcome
  deriving DecidableEq

/-- `SerialTransport_SendAck`: the bytes that go to the line. -/
def sendAck (seq : List UInt8) : List UInt8 := ackFrameStartByte :: seq

/-- The decoding of a payload, at the end of the body of the loop. -/
def deliver (payload : List UInt8) : FrameOutcome :=
  match encodeDecodePayload payload false with
  | .error fault => .undefined fault
  | .ok (.error _) => .cleared
  | .ok (.ok cbor) => .delivered cbor

/-- The body of the loop of `SerialTransport_ReadFrame`, for a frame of `SerialIO_ReadFrame`. The payload is
    copied to an array of `GG_MAX_FRAME_LEN` bytes, which no payload exceeds that was in the buffer. -/
def handleFrame (received : List UInt8) (parser : SerialRemoteParser) : HandledFrame :=
  match parser.getFramePayload with
  | .error fault => ⟨received, parser, none, none, .undefined fault⟩
  | .ok (.error _) => ⟨received, parser, none, none, .cleared⟩
  | .ok (.ok payload) =>
      match frameValidation parser with
      | .error fault => ⟨received, parser, some payload, none, .undefined fault⟩
      | .ok (.error _) => ⟨received, parser, some payload, none, .cleared⟩
      | .ok (.ok ()) =>
          match parser.getFrameSeq with
          | .error fault => ⟨received, parser, some payload, none, .undefined fault⟩
          | .ok (.error _) => ⟨received, parser, some payload, none, .undefined .undefined⟩
          | .ok (.ok seq) => ⟨received, parser, some payload, some (sendAck seq), deliver payload⟩

/-- The number that some hex digits are. -/
def hexValue (chars : List UInt8) : Option Nat :=
  (chars.mapM hexDigit).map (List.foldl (fun value digit => 16 * value + digit.toNat) 0)

/-- The characters of a frame, without the shell exits that the parser leaves out. -/
def HandledFrame.chars (frame : HandledFrame) : List UInt8 := frame.received.filter (· ≠ shellExit)

/-- What `GG_Base64_Decode` gives back for a payload. There is no buffer for no bytes. -/
def IsDecoding (payload : List UInt8) (data : Option (List UInt8)) : Prop :=
  ∃ room size, decode payload room false = .ok (.ok (data.getD []), size)

/-- The frame in the buffer is the last one that came in, its CRC is the one of its payload, the payload goes
    to the decoder, and its sequence number to the ack. -/
def HandledFrame.Valid (frame : HandledFrame) : Prop :=
  ∃ payload crc seq : List UInt8, crc.length = crcFramedLen ∧ seq.length = seqFramedLen ∧
    frame.parser.buffer.take frame.parser.frameLen = createFrame payload crc seq ∧
    createFrame payload crc seq <:+ frame.chars ∧ hexValue crc = some (crc32 0 payload).toNat ∧
    frame.payload = some payload ∧ frame.sent = some (sendAck seq) ∧
    ∀ data, frame.outcome = .delivered data → IsDecoding payload data

/-- An ack is sent, or something is delivered, only for a valid frame; and no object is left, behind which anything
    could be sent. -/
def HandledFrame.Sound (frame : HandledFrame) : Prop :=
  frame.sent ≠ none ∨ (∃ data, frame.outcome = .delivered data) ∨ (∃ fault, frame.outcome = .undefined fault) → frame.Valid

/-- The last payload end of a frame is where the validation takes it to be, and no ack is among its
    characters. -/
def WellPlaced (chars : List UInt8) : Prop :=
  ∃ front payload tail : List UInt8,
    chars = front ++ (frameStartByte :: (payload ++ framePayloadEndByte :: tail)) ++ [frameEndByte] ∧
    (∀ c ∈ payload ++ tail, c ≠ frameStartByte ∧ c ≠ ackFrameStartByte) ∧ framePayloadEndByte ∉ tail ∧
    tail.length = crcFramedLen + seqFramedLen ∧ ackLeft 0 front = 0

/-- The frame is complete, and its payload and what the validation looks at are in the buffer. -/
structure HandledFrame.Fits (frame : HandledFrame) : Prop where
  complete : frame.parser.frameParsingComplete = true
  payload : 1 + frame.parser.payloadLen ≤ maxFrameLen
  crc : CrcInside frame.parser.buffer frame.parser.frameLen

/-- The validation accepts the frame. -/
def HandledFrame.Accepted (frame : HandledFrame) : Prop := frameValidation frame.parser = .ok (.ok ())

/-! ## What the parser has of the characters -/

theorem ackLeft_append (left : Nat) (first second : List UInt8) :
    ackLeft left (first ++ second) = ackLeft (ackLeft left first) second := by
  induction first generalizing left with
  | nil => rfl
  | cons c rest ih =>
      rw [List.cons_append, ackLeft, ackLeft]
      split
      case isTrue => exact ih _
      case isFalse =>
          split
          case isTrue => exact ih _
          case isFalse => exact ih _

theorem ackLeft_body {body : List UInt8} (noAck : ackFrameStartByte ∉ body) (noStart : frameStartByte ∉ body)
    (noEnd : frameEndByte ∉ body) (left : Nat) : ackLeft left body = left - body.length := by
  induction body generalizing left with
  | nil => rfl
  | cons c rest ih =>
      simp only [List.mem_cons, not_or] at noAck noStart noEnd
      rw [ackLeft, if_neg (Ne.symm noAck.1), if_neg (not_or.mpr ⟨Ne.symm noStart.1, Ne.symm noEnd.1⟩),
        ih noAck.2 noStart.2 noEnd.2, List.length_cons]
      omega

theorem ackLeft_frame {front body : List UInt8} (noAck : ackFrameStartByte ∉ body) (noStart : frameStartByte ∉ body)
    (noEnd : frameEndByte ∉ body) : ackLeft 0 (front ++ frameStartByte :: body) = ackLeft 0 front - body.length := by
  rw [ackLeft_append]
  exact ackLeft_body noAck noStart noEnd _

/-- The parser has the characters of a frame, of which an unfinished ack has taken the first ones from the
    length, or another ack has come in between. -/
inductive HasBody (parser : SerialRemoteParser) (front body : List UInt8) : Prop where
  | whole (noAck : ackFrameStartByte ∉ body) (content : parser.buffer.take (body.length + 1) = frameStartByte :: body)
      (index : parser.bufferIdx = body.length + 1)
      (frameLen : parser.frameLen + min (ackLeft 0 front) body.length = body.length + 1)
      (payloadLen : ackLeft 0 front = 0 → ∀ payload tail, body = payload ++ framePayloadEndByte :: tail →
        framePayloadEndByte ∉ tail → parser.payloadLen = payload.length)
  | spoiled (some_ : ackFrameStartByte ∈ body) (index : 0 < parser.bufferIdx)
      (content : parser.buffer[0]? = some ackFrameStartByte)

/-- The frame that the parser has started is the last one that came in. -/
structure Follows (parser : SerialRemoteParser) (chars : List UInt8) : Prop where
  tracks : ∃ framing used, Tracks parser framing used (ackLeft 0 chars)
  incomplete : parser.frameParsingComplete = false
  outside : parser.frameParsingStarted = false → frameStartByte ∉ chars
  inside : parser.frameParsingStarted = true → ∃ front body, chars = front ++ frameStartByte :: body ∧
    frameStartByte ∉ body ∧ frameEndByte ∉ body ∧ HasBody parser front body

/-- What one character does to the parser that follows some others. -/
inductive FollowOutcome (parser : SerialRemoteParser) (chars : List UInt8) (c : UInt8) (next : SerialRemoteParser) : Prop where
  | exit (isExit : c = shellExit) (follows : Follows next chars)
  | goesOn (notExit : c ≠ shellExit) (follows : Follows next (chars ++ [c]))
  | completes (isEnd : c = frameEndByte) (started : parser.frameParsingStarted = true)
      (complete : next.frameParsingComplete = true) (buffer : next.buffer = (stored parser c).buffer)
      (room : parser.bufferIdx < parser.buffer.length)
      (frameLen : next.frameLen = parser.frameLen + 1) (payloadLen : next.payloadLen = parser.payloadLen)

theorem stored_head {parser : SerialRemoteParser} (room : parser.bufferIdx < parser.buffer.length) (c : UInt8) :
    (stored parser c).buffer[parser.bufferIdx]? = some c := by
  have before : (parser.buffer.take parser.bufferIdx).length = parser.bufferIdx := by
    rw [List.length_take, Nat.min_eq_left (Nat.le_of_lt room)]
  rw [stored, List.append_assoc, List.getElem?_append_right (by omega), before, Nat.sub_self]
  rfl

theorem stored_earlier {parser : SerialRemoteParser} (room : parser.bufferIdx < parser.buffer.length) (c : UInt8) {i : Nat}
    (earlier : i < parser.bufferIdx) : (stored parser c).buffer[i]? = parser.buffer[i]? := by
  have before : (parser.buffer.take parser.bufferIdx).length = parser.bufferIdx := by
    rw [List.length_take, Nat.min_eq_left (Nat.le_of_lt room)]
  rw [stored, List.append_assoc, List.getElem?_append_left (by omega), List.getElem?_take_of_lt earlier]

section Step

variable {parser : SerialRemoteParser} {chars : List UInt8} (follows : Follows parser chars)
include follows

/-- A character that comes in outside of frames. -/
theorem Follows.outside_snoc {next : SerialRemoteParser} {c : UInt8} (notStart : c ≠ frameStartByte)
    (tracks : ∃ framing used, Tracks next framing used (ackLeft 0 (chars ++ [c])))
    (incomplete : next.frameParsingComplete = false) (same : next.frameParsingStarted = parser.frameParsingStarted)
    (out : parser.frameParsingStarted = false) : Follows next (chars ++ [c]) where
  tracks := tracks
  incomplete := incomplete
  outside := by
    intro _ member
    rcases List.mem_append.mp member with old | new
    · exact follows.outside out old
    · exact notStart (List.mem_singleton.mp new).symm
  inside := by
    intro started
    rw [same, out] at started
    cases started

/-- A character of the body of a frame. -/
theorem Follows.inside_snoc {next : SerialRemoteParser} {c : UInt8} (notStart : c ≠ frameStartByte)
    (notEnd : c ≠ frameEndByte) (tracks : ∃ framing used, Tracks next framing used (ackLeft 0 (chars ++ [c])))
    (incomplete : next.frameParsingComplete = false) (started : parser.frameParsingStarted = true)
    (same : next.frameParsingStarted = parser.frameParsingStarted)
    (takes : ∀ front body, chars = front ++ frameStartByte :: body → frameStartByte ∉ body → frameEndByte ∉ body →
      HasBody parser front body → HasBody next front (body ++ [c])) : Follows next (chars ++ [c]) where
  tracks := tracks
  incomplete := incomplete
  outside := by
    intro out
    rw [same, started] at out
    cases out
  inside := by
    intro _
    obtain ⟨front, body, isChars, noStart, noEnd, hasBody⟩ := follows.inside started
    refine ⟨front, body ++ [c], ?_, ?_, ?_, takes front body isChars noStart noEnd hasBody⟩
    · rw [isChars, List.append_assoc]
      rfl
    · simp only [List.mem_append, List.mem_singleton, not_or]
      exact ⟨noStart, Ne.symm notStart⟩
    · simp only [List.mem_append, List.mem_singleton, not_or]
      exact ⟨noEnd, Ne.symm notEnd⟩

theorem Follows.ackStart {next : SerialRemoteParser} {result : Except Error Unit}
    (put : parser.putData ackFrameStartByte = .ok (next, result)) : Follows next (chars ++ [ackFrameStartByte]) := by
  obtain ⟨framing, used, tracks⟩ := follows.tracks
  obtain ⟨next', put', tracks'⟩ := tracks.ackStart
  rw [put] at put'
  cases put'
  have isNext := (putData_ackStart tracks.room_start).symm.trans put
  have left : ackLeft 0 (chars ++ [ackFrameStartByte]) = seqFramedLen := by
    rw [ackLeft_append]
    rfl
  cases isNext
  rw [← left] at tracks'
  rcases Bool.eq_false_or_eq_true parser.frameParsingStarted with started | out
  · refine follows.inside_snoc (by decide) (by decide) ⟨_, _, tracks'⟩ follows.incomplete started rfl ?_
    intro front body _ _ _ _
    exact .spoiled (by simp) (Nat.succ_pos _) (@stored_head { parser with bufferIdx := 0 } tracks.room_start ackFrameStartByte)
  · exact follows.outside_snoc (by decide) ⟨_, _, tracks'⟩ follows.incomplete rfl out

theorem Follows.frameStart {next : SerialRemoteParser} {result : Except Error Unit}
    (put : parser.putData frameStartByte = .ok (next, result)) : Follows next (chars ++ [frameStartByte]) := by
  obtain ⟨framing, used, tracks⟩ := follows.tracks
  obtain ⟨next', put', tracks', -, -, content⟩ := tracks.frameStart
  rw [put] at put'
  cases put'
  have isNext := (putData_frameStart tracks.room_start).symm.trans put
  have left : ackLeft 0 (chars ++ [frameStartByte]) = ackLeft 0 chars := by
    rw [ackLeft_append]
    rfl
  cases isNext
  rw [← left] at tracks'
  refine ⟨⟨_, _, tracks'⟩, rfl, (fun out => nomatch out), fun _ => ⟨chars, [], rfl, (fun member => nomatch member),
    (fun member => nomatch member), ?_⟩⟩
  refine .whole (fun member => nomatch member) content rfl (by rw [List.length_nil, Nat.min_zero]) ?_
  · intro _ payload tail none_
    have length := congrArg List.length none_
    simp at length

theorem Follows.frameEnd {next : SerialRemoteParser} {result : Except Error Unit}
    (put : parser.putData frameEndByte = .ok (next, result)) : FollowOutcome parser chars frameEndByte next := by
  obtain ⟨framing, used, tracks⟩ := follows.tracks
  rw [putData_frameEnd] at put
  cases started : parser.frameParsingStarted with
  | false =>
      rw [started, if_neg (by decide)] at put
      cases put
      have left : ackLeft 0 (chars ++ [frameEndByte]) = ackLeft 0 chars := by
        rw [ackLeft_append]
        rfl
      rw [← left] at tracks
      exact .goesOn (by decide) (follows.outside_snoc (by decide) ⟨_, _, tracks⟩ follows.incomplete rfl started)
  | true =>
      rw [started, if_pos rfl] at put
      rcases Nat.lt_or_ge parser.bufferIdx parser.buffer.length with room | full
      · rw [append_ok room] at put
        cases put
        exact .completes rfl started rfl rfl room rfl rfl
      · rw [append_full full] at put
        cases put

theorem Follows.shellExit {next : SerialRemoteParser} {result : Except Error Unit}
    (put : parser.putData Remote.shellExit = .ok (next, result)) : Follows next chars := by
  have isNext : (.ok ({ parser with shellExitState := true }, .error .remoteExit) : Access _) = .ok (next, result) :=
    Eq.trans rfl put
  cases isNext
  obtain ⟨framing, used, tracks⟩ := follows.tracks
  refine ⟨⟨framing, used, ⟨tracks.buffer, tracks.framed, tracks.index,
    ⟨tracks.acking.few, tracks.acking.started, tracks.acking.len⟩, tracks.near⟩⟩, follows.incomplete, follows.outside, ?_⟩
  intro started
  obtain ⟨front, body, isChars, noStart, noEnd, hasBody⟩ := follows.inside started
  refine ⟨front, body, isChars, noStart, noEnd, ?_⟩
  cases hasBody with
  | whole noAck content index frameLen payloadLen => exact .whole noAck content index frameLen payloadLen
  | spoiled some_ index content => exact .spoiled some_ index content

end Step

/-- One more character is in the buffer behind those of the body. -/
theorem content_snoc {parser : SerialRemoteParser} {body : List UInt8} (room : parser.bufferIdx < parser.buffer.length)
    (content : parser.buffer.take (body.length + 1) = frameStartByte :: body) (index : parser.bufferIdx = body.length + 1)
    (c : UInt8) : (stored parser c).buffer.take ((body ++ [c]).length + 1) = frameStartByte :: (body ++ [c]) := by
  have taken := stored_take room c
  rw [index, content] at taken
  rw [List.length_append]
  exact taken

theorem Follows.plain {parser : SerialRemoteParser} {chars : List UInt8} (follows : Follows parser chars)
    {next : SerialRemoteParser} {result : Except Error Unit} {c : UInt8} (plain : Plain c)
    (put : parser.putData c = .ok (next, result)) : Follows next (chars ++ [c]) := by
  obtain ⟨framing, used, tracks⟩ := follows.tracks
  have left : ackLeft 0 (chars ++ [c]) = ackLeft 0 chars - 1 := by
    rw [ackLeft_append]
    exact ackLeft_plain plain _ []
  by_cases waiting : ackLeft 0 chars ≠ 0
  · -- the ack takes it
    have room := tracks.room_ack waiting
    have acks : parser.ackParsingStarted = true := by rw [tracks.acking.started, decide_eq_true waiting]
    obtain ⟨next', put', tracks', -⟩ := tracks.plain_ack plain waiting
    rw [put] at put'
    cases put'
    have isNext := (putData_ack plain acks room).symm.trans put
    cases isNext
    rw [← left] at tracks'
    rcases Bool.eq_false_or_eq_true parser.frameParsingStarted with started | out
    · refine follows.inside_snoc plain.2.1 plain.2.2.1 ⟨_, _, tracks'⟩ follows.incomplete started rfl ?_
      intro front body isChars noStart noEnd hasBody
      cases hasBody with
      | whole noAck content index frameLen payloadLen =>
          have now : ackLeft 0 chars = ackLeft 0 front - body.length := by
            rw [isChars, ackLeft_frame noAck noStart noEnd]
          refine .whole ?_ (content_snoc room content index c) ?_ ?_ ?_
          · simp only [List.mem_append, List.mem_singleton, not_or]
            exact ⟨noAck, Ne.symm plain.1⟩
          · change parser.bufferIdx + 1 = _
            rw [List.length_append, index]
            rfl
          · change parser.frameLen + _ = _
            rw [List.length_append, List.length_singleton]
            omega
          · intro none_
            omega
      | spoiled some_ index content =>
          exact .spoiled (List.mem_append_left _ some_) (Nat.succ_pos _) ((stored_earlier room c index).trans content)
    · exact follows.outside_snoc plain.2.1 ⟨_, _, tracks'⟩ follows.incomplete rfl out
  · have none_ : ackLeft 0 chars = 0 := not_not.mp waiting
    have idle : parser.ackParsingStarted = false := by rw [tracks.acking.started, none_]; rfl
    cases started : parser.frameParsingStarted with
    | false =>
        rw [putData_ignored plain idle started] at put
        cases put
        have same : ackLeft 0 (chars ++ [c]) = ackLeft 0 chars := by rw [left, none_]
        rw [← same] at tracks
        exact follows.outside_snoc plain.2.1 ⟨_, _, tracks⟩ follows.incomplete rfl started
    | true =>
        have framed : framing = true := tracks.framed.symm.trans started
        have index := tracks.index framed
        have puts := tracks.plain_frame plain none_ framed
        split at puts
        case isFalse full =>
            rw [put] at puts
            cases puts
        case isTrue small =>
            obtain ⟨next', put', tracks', buffer, index', frameLen', complete', payloadLen'⟩ := puts
            rw [put] at put'
            cases put'
            have room : parser.bufferIdx < parser.buffer.length := by
              rw [tracks.buffer, index]
              exact small
            have zero : ackLeft 0 (chars ++ [c]) = 0 := by rw [left, none_]
            rw [← zero] at tracks'
            refine follows.inside_snoc plain.2.1 plain.2.2.1 ⟨_, _, tracks'⟩ (complete'.trans follows.incomplete) started
              (tracks'.framed.trans started.symm) ?_
            intro front body isChars noStart noEnd hasBody
            cases hasBody with
            | whole noAck content isIndex frameLen payloadLen =>
                have now : ackLeft 0 front - body.length = 0 := by
                  rw [← ackLeft_frame noAck noStart noEnd, ← isChars, none_]
                refine .whole ?_ (buffer ▸ content_snoc room content isIndex c) ?_ ?_ ?_
                · simp only [List.mem_append, List.mem_singleton, not_or]
                  exact ⟨noAck, Ne.symm plain.1⟩
                · rw [index', List.length_append, isIndex]
                  rfl
                · rw [frameLen', List.length_append, List.length_singleton]
                  omega
                · intro noneLeft payload tail isBody lastEnd
                  rw [payloadLen']
                  rcases List.eq_nil_or_concat tail with rfl | ⟨tail', last, rfl⟩
                  · obtain ⟨same, isLast⟩ := List.append_inj' isBody rfl
                    rw [if_pos (List.cons.inj isLast).1, ← same]
                    omega
                  · rw [List.concat_eq_append] at isBody lastEnd
                    rw [← List.cons_append, ← List.append_assoc] at isBody
                    obtain ⟨same, isLast⟩ := List.append_inj' isBody rfl
                    have notEnd : c ≠ framePayloadEndByte := by
                      intro isEnd
                      rw [← isEnd, (List.cons.inj isLast).1] at lastEnd
                      simp at lastEnd
                    rw [if_neg notEnd]
                    exact payloadLen noneLeft payload tail' same fun member => lastEnd (List.mem_append_left _ member)
            | spoiled some_ positive content =>
                refine .spoiled (List.mem_append_left _ some_) (by omega) ?_
                rw [buffer]
                exact (stored_earlier room c positive).trans content

theorem Follows.char {parser : SerialRemoteParser} {chars : List UInt8} (follows : Follows parser chars)
    {next : SerialRemoteParser} {result : Except Error Unit} {c : UInt8} (put : parser.putData c = .ok (next, result)) :
    FollowOutcome parser chars c next := by
  by_cases ack : c = ackFrameStartByte
  · subst ack
    exact .goesOn (by decide) (follows.ackStart put)
  by_cases start : c = frameStartByte
  · subst start
    exact .goesOn (by decide) (follows.frameStart put)
  by_cases finish : c = frameEndByte
  · subst finish
    exact follows.frameEnd put
  by_cases isExit : c = Remote.shellExit
  · subst isExit
    exact .exit rfl (follows.shellExit put)
  exact .goesOn isExit (follows.plain ⟨ack, start, finish, isExit⟩ put)

/-! ## A complete frame -/

/-- The parser has completed the last frame that came in. -/
inductive HasFrame (parser : SerialRemoteParser) (chars : List UInt8) : Prop where
  | whole (front body : List UInt8) (isChars : chars = front ++ (frameStartByte :: body) ++ [frameEndByte])
      (noStart : frameStartByte ∉ body) (noEnd : frameEndByte ∉ body) (noAck : ackFrameStartByte ∉ body)
      (content : parser.buffer.take (body.length + 2) = frameStartByte :: (body ++ [frameEndByte]))
      (frameLen : parser.frameLen + min (ackLeft 0 front) body.length = body.length + 2)
      (payloadLen : ackLeft 0 front = 0 → ∀ payload tail, body = payload ++ framePayloadEndByte :: tail →
        framePayloadEndByte ∉ tail → parser.payloadLen = payload.length)
  | spoiled (front body : List UInt8) (isChars : chars = front ++ (frameStartByte :: body) ++ [frameEndByte])
      (noStart : frameStartByte ∉ body) (some_ : ackFrameStartByte ∈ body)
      (content : parser.buffer[0]? = some ackFrameStartByte)

/-- A frame that was handled after it was completed. -/
structure Completed (frame : HandledFrame) : Prop where
  complete : frame.parser.frameParsingComplete = true
  sized : frame.parser.buffer.length = maxFrameLen
  hasFrame : HasFrame frame.parser frame.chars
  handled : frame = handleFrame frame.received frame.parser

theorem Follows.hasFrame {parser next : SerialRemoteParser} {chars : List UInt8} (follows : Follows parser chars)
    (started : parser.frameParsingStarted = true) (room : parser.bufferIdx < parser.buffer.length)
    (buffer : next.buffer = (stored parser frameEndByte).buffer) (frameLen : next.frameLen = parser.frameLen + 1)
    (payloadLen : next.payloadLen = parser.payloadLen) : HasFrame next (chars ++ [frameEndByte]) := by
  obtain ⟨front, body, rfl, noStart, noEnd, hasBody⟩ := follows.inside started
  cases hasBody with
  | whole noAck content index isLen isPayload =>
      have content' := content_snoc room content index frameEndByte
      rw [← buffer, List.length_append] at content'
      refine .whole front body rfl noStart noEnd noAck content' (by omega) ?_
      intro noneLeft payload tail isBody lastEnd
      exact payloadLen.trans (isPayload noneLeft payload tail isBody lastEnd)
  | spoiled some_ positive content =>
      refine .spoiled front body rfl noStart some_ ?_
      rw [buffer]
      exact (stored_earlier room frameEndByte positive).trans content

theorem hexDigit_lt {byte digit : UInt8} (isDigit : hexDigit byte = some digit) : digit.toNat < 16 := by
  have small : ∀ n : Fin 256, (hexDigit (UInt8.ofNat n)).all (·.toNat < 16) = true := by decide +kernel
  have all := small ⟨byte.toNat, byte.toNat_lt⟩
  rw [UInt8.ofNat_toNat, isDigit] at all
  simpa using all

theorem toNat_shift_digit (result : UInt32) {digit : UInt8} (small : digit.toNat < 16) :
    ((result <<< 4) ||| (digit &&& 0xF).toUInt32).toNat = (16 * result.toNat + digit.toNat) % 2 ^ 32 := by
  have bound := result.toNat_lt
  have word : (digit &&& 0xF).toUInt32.toNat = digit.toNat := by
    rw [UInt8.toNat_toUInt32, UInt8.toNat_and]
    refine (Bytes.and_mask digit.toNat 4).trans ?_
    omega
  have shifted : (result <<< 4).toNat = (result.toNat % 2 ^ 28) <<< 4 := by
    rw [UInt32.toNat_shiftLeft, Nat.shiftLeft_eq, Nat.shiftLeft_eq]
    simp
    omega
  rw [UInt32.toNat_or, word, shifted, @Bytes.shiftLeft_or _ _ 4 small]
  omega

theorem foldl_digits_mod (digits : List UInt8) {value other : Nat} (same : value % 2 ^ 32 = other % 2 ^ 32) :
    digits.foldl (fun value digit => 16 * value + digit.toNat) value % 2 ^ 32 =
      digits.foldl (fun value digit => 16 * value + digit.toNat) other % 2 ^ 32 := by
  induction digits generalizing value other with
  | nil => exact same
  | cons digit rest ih =>
      refine ih ?_
      dsimp only
      omega

theorem foldl_digits_lt (digits : List UInt8) (small : ∀ digit ∈ digits, digit.toNat < 16) (value : Nat) :
    digits.foldl (fun value digit => 16 * value + digit.toNat) value < (value + 1) * 16 ^ digits.length := by
  induction digits generalizing value with
  | nil => simp
  | cons digit rest ih =>
      rw [List.foldl_cons, List.length_cons, pow_succ']
      have first := small digit List.mem_cons_self
      have later := ih (fun other member => small other (List.mem_cons_of_mem _ member)) (16 * value + digit.toNat)
      have step : 16 * value + digit.toNat + 1 ≤ (value + 1) * 16 := by omega
      calc _ < _ := later
        _ ≤ (value + 1) * 16 * 16 ^ rest.length := Nat.mul_le_mul_right _ step
        _ = _ := Nat.mul_assoc _ _ _

/-- A number that is read is the one of its digits. -/
theorem atoi32From_digits_value (chars : List UInt8) {pre post : List UInt8} {result value : UInt32}
    (reads : atoi32From (pre ++ chars ++ post) chars.length pre.length result = .ok (.ok value)) :
    ∃ digits, chars.mapM hexDigit = some digits ∧ digits.length = chars.length ∧ (∀ digit ∈ digits, digit.toNat < 16) ∧
      value.toNat = digits.foldl (fun value digit => 16 * value + digit.toNat) result.toNat % 2 ^ 32 := by
  induction chars generalizing pre result with
  | nil =>
      cases reads
      exact ⟨[], rfl, rfl, (fun _ member => nomatch member), (Nat.mod_eq_of_lt value.toNat_lt).symm⟩
  | cons c rest ih =>
      have there : (pre ++ (c :: rest) ++ post)[pre.length]? = some c := by simp
      rw [List.length_cons, atoi32From, load, there] at reads
      dsimp only [ok_bind] at reads
      cases isDigit : hexDigit c with
      | none =>
          rw [isDigit] at reads
          cases reads
      | some digit =>
          rw [isDigit] at reads
          have small := hexDigit_lt isDigit
          have again : pre ++ (c :: rest) ++ post = pre ++ [c] ++ rest ++ post := by simp
          rw [again, show pre.length + 1 = (pre ++ [c]).length by simp] at reads
          obtain ⟨digits, mapped, length, allSmall, isValue⟩ := ih reads
          refine ⟨digit :: digits, by simp [isDigit, mapped], by simp [length], ?_, ?_⟩
          · intro other member
            cases member with
            | head => exact small
            | tail _ later => exact allSmall other later
          · rw [isValue, toNat_shift_digit result small, List.foldl_cons]
            exact foldl_digits_mod digits (Nat.mod_mod _ _)

theorem atoi32_hexValue {pre crc post : List UInt8} (length : crc.length = crcFramedLen) {value : UInt32}
    (reads : atoi32 (pre ++ crc ++ post) pre.length = .ok (.ok value)) : hexValue crc = some value.toNat := by
  rw [atoi32, show 8 = crc.length from length.symm] at reads
  obtain ⟨digits, mapped, same, small, isValue⟩ := atoi32From_digits_value crc reads
  have bound := foldl_digits_lt digits small 0
  rw [same, length] at bound
  rw [hexValue, mapped, isValue]
  exact congrArg some (Nat.mod_eq_of_lt bound).symm

/-- A frame of the right length is accepted for its CRC. -/
theorem frameValidation_crc {parser : SerialRemoteParser} {payload crc seq room : List UInt8}
    (complete : parser.frameParsingComplete = true) (buffer : parser.buffer = createFrame payload crc seq ++ room)
    (length : crc.length = crcFramedLen) (len : parser.frameLen = payload.length + minFrameLen)
    (valid : frameValidation parser = .ok (.ok ())) : hexValue crc = some (crc32 0 payload).toNat := by
  have split_ : parser.buffer = [frameStartByte] ++ payload ++ [framePayloadEndByte] ++ crc ++ (seq ++ [frameEndByte] ++ room) := by
    rw [buffer, createFrame]
    simp only [List.append_assoc]
  rw [frameValidation_eq complete, if_neg (by omega), frame_crcPlace len] at valid
  obtain ⟨number, reads, valid⟩ := bind_ok valid
  cases number with
  | error e => cases valid
  | ok value =>
      have isValue := @atoi32_hexValue ([frameStartByte] ++ payload ++ [framePayloadEndByte]) crc
        (seq ++ [frameEndByte] ++ room) length value (by rw [← split_]; exact reads)
      dsimp only at valid
      rw [frame_covered buffer len] at valid
      have same : crc32 0 payload = value := by
        by_contra different
        rw [ok_bind, if_neg different] at valid
        cases valid
      rw [isValue, same]

/-! ## Valid frames -/

theorem decode_no_room {payload output : List UInt8} {size : Nat} (decodes : decode payload 0 false = .ok (.ok output, size)) :
    output = [] := by
  unfold decode at decodes
  split at decodes
  case isTrue => cases decodes
  case isFalse =>
      obtain ⟨checked, -, decodes⟩ := bind_ok decodes
      cases checked with
      | none => cases decodes
      | some charCount =>
          dsimp only at decodes
          generalize 3 * (charCount / 4) + (if charCount % 4 = 0 then 0 else charCount % 4 - 1) = outputSize at decodes
          split at decodes
          case isTrue => cases decodes
          case isFalse =>
              split at decodes
              case isTrue => cases decodes
              case isFalse noRoom =>
                  rw [if_pos (Nat.eq_zero_of_not_pos noRoom)] at decodes
                  cases decodes
                  rfl

/-- What is delivered is what the decoder gives back. -/
theorem deliver_isDecoding {payload : List UInt8} {data : Option (List UInt8)} (delivers : deliver payload = .delivered data) :
    IsDecoding payload data := by
  unfold deliver at delivers
  split at delivers
  case h_1 => cases delivers
  case h_2 => cases delivers
  case h_3 cbor decodes =>
      cases delivers
      obtain ⟨⟨result, size⟩, first, decodes⟩ := bind_ok decodes
      cases result with
      | ok output =>
          cases decodes
          rw [show output = [] from decode_no_room first] at first
          exact ⟨0, size, first⟩
      | error e =>
          cases e
          all_goals try cases decodes
          obtain ⟨⟨result', size'⟩, second, decodes⟩ := bind_ok decodes
          cases result' with
          | error e => cases decodes
          | ok output =>
              cases decodes
              exact ⟨size, size', second⟩

/-- A frame that is accepted is acknowledged, with what is read of it. -/
theorem Completed.accepted {frame : HandledFrame} (completed : Completed frame) (accepted : frame.Accepted)
    (bound : 1 + frame.parser.payloadLen + 1 + crcFramedLen + seqFramedLen ≤ maxFrameLen) :
    ∃ payload seq, frame.parser.getFramePayload = .ok (.ok payload) ∧ frame.parser.getFrameSeq = .ok (.ok seq) ∧
      frame.payload = some payload ∧ frame.sent = some (sendAck seq) ∧ frame.outcome = deliver payload := by
  obtain ⟨payload, isPayload⟩ := inside_copy.mpr (show 1 + frame.parser.payloadLen ≤ frame.parser.buffer.length by
    rw [completed.sized]
    omega)
  obtain ⟨seq, isSeq⟩ := inside_copy.mpr (show 1 + frame.parser.payloadLen + 1 + crcFramedLen + seqFramedLen ≤ frame.parser.buffer.length by
    rw [completed.sized]
    exact bound)
  have payloadReads : frame.parser.getFramePayload = .ok (.ok payload) := by
    rw [SerialRemoteParser.getFramePayload, completed.complete, isPayload]
    rfl
  have seqReads : frame.parser.getFrameSeq = .ok (.ok seq) := by
    rw [SerialRemoteParser.getFrameSeq, completed.complete, isSeq]
    rfl
  have handled := completed.handled
  rw [handleFrame, payloadReads] at handled
  dsimp only at handled
  rw [accepted] at handled
  dsimp only at handled
  rw [seqReads] at handled
  exact ⟨payload, seq, payloadReads, seqReads, congrArg HandledFrame.payload handled, congrArg HandledFrame.sent handled,
    congrArg HandledFrame.outcome handled⟩

/-- A frame that is sound is read inside of the buffer, also its sequence number if it is accepted. -/
theorem Completed.fits {frame : HandledFrame} (completed : Completed frame) (sound : frame.Sound) :
    frame.Fits ∧ (frame.Accepted → 1 + frame.parser.payloadLen + 1 + crcFramedLen + seqFramedLen ≤ maxFrameLen) := by
  have handled := completed.handled
  have defined (received : List UInt8) (payload : Option (List UInt8)) (fault : Fault)
      (leaves : frame = ⟨received, frame.parser, payload, none, .undefined fault⟩) : False := by
    have outcome : frame.outcome = .undefined fault := by rw [leaves]
    obtain ⟨_, _, seq, -, -, -, -, -, -, isSent, -⟩ := sound (.inr (.inr ⟨fault, outcome⟩))
    rw [leaves] at isSent
    cases isSent
  rw [handleFrame] at handled
  cases reads : frame.parser.getFramePayload with
  | error fault =>
      rw [reads] at handled
      exact (defined _ _ _ handled).elim
  | ok payload =>
      have payloadFits := (inside_getFramePayload completed.complete completed.sized).mp ⟨_, reads⟩
      cases payload with
      | error e =>
          rw [SerialRemoteParser.getFramePayload, completed.complete] at reads
          obtain ⟨data, -, no⟩ := bind_ok reads
          cases no
      | ok payload =>
          rw [reads] at handled
          dsimp only at handled
          cases validates : frameValidation frame.parser with
          | error fault =>
              rw [validates] at handled
              exact (defined _ _ _ handled).elim
          | ok validation =>
              have crcFits := (inside_frameValidation completed.complete completed.sized).mp ⟨_, validates⟩
              refine ⟨⟨completed.complete, payloadFits, crcFits⟩, ?_⟩
              intro accepted
              rw [accepted] at handled
              dsimp only at handled
              cases seqReads : frame.parser.getFrameSeq with
              | error fault =>
                  rw [seqReads] at handled
                  exact (defined _ _ _ handled).elim
              | ok seq => exact (inside_getFrameSeq completed.complete completed.sized).mp ⟨_, seqReads⟩

/-- The last start byte splits the characters in one way. -/
theorem last_split {x : UInt8} {front front' back back' : List UInt8} (same : front ++ x :: back = front' ++ x :: back')
    (noneBack : x ∉ back) (noneBack' : x ∉ back') : front = front' ∧ back = back' := by
  rcases List.append_eq_append_iff.mp same with ⟨between, isFront, isBack⟩ | ⟨between, isFront, isBack⟩
  · cases between with
    | nil => exact ⟨by rw [isFront, List.append_nil], (List.cons.inj isBack).2⟩
    | cons first rest =>
        rw [List.cons_append, List.cons.injEq] at isBack
        exact absurd (isBack.2 ▸ List.mem_append_right rest List.mem_cons_self) noneBack
  · cases between with
    | nil => exact ⟨by rw [isFront, List.append_nil], (List.cons.inj isBack).2.symm⟩
    | cons first rest =>
        rw [List.cons_append, List.cons.injEq] at isBack
        exact absurd (isBack.2 ▸ List.mem_append_right rest List.mem_cons_self) noneBack'

/-- An accepted frame is valid when its last payload end is where the validation takes it to be. -/
theorem Completed.valid {frame : HandledFrame} (completed : Completed frame) (accepted : frame.Accepted)
    (placed : WellPlaced frame.chars) : frame.Valid := by
  obtain ⟨front, payload, tail, isChars, plain, lastEnd, length, noneLeft⟩ := placed
  have noStart : frameStartByte ∉ payload ++ framePayloadEndByte :: tail := by
    intro member
    simp only [List.mem_append, List.mem_cons] at member plain
    rcases member with inPayload | isEnd | inTail
    · exact (plain _ (.inl inPayload)).1 rfl
    · exact absurd isEnd (by decide)
    · exact (plain _ (.inr inTail)).1 rfl
  -- the frame is the one that is in the buffer
  have unique {front' body : List UInt8} (isChars' : frame.chars = front' ++ (frameStartByte :: body) ++ [frameEndByte])
      (noStart' : frameStartByte ∉ body) : front' = front ∧ body = payload ++ framePayloadEndByte :: tail := by
    have same := isChars'.symm.trans isChars
    exact last_split (List.append_cancel_right same) noStart' noStart
  cases completed.hasFrame with
  | spoiled front' body isChars' noStart' some_ _ =>
      obtain ⟨-, rfl⟩ := unique isChars' noStart'
      simp only [List.mem_append, List.mem_cons] at some_ plain
      rcases some_ with inPayload | isEnd | inTail
      · exact absurd rfl (plain _ (.inl inPayload)).2
      · exact absurd isEnd (by decide)
      · exact absurd rfl (plain _ (.inr inTail)).2
  | whole front' body isChars' noStart' _ _ isBody frameLen isPayloadLen =>
      obtain ⟨rfl, rfl⟩ := unique isChars' noStart'
      rw [noneLeft, Nat.zero_min, Nat.add_zero] at frameLen
      have payloadLen := isPayloadLen noneLeft payload tail rfl lastEnd
      have whole := congrArg List.length isBody
      rw [List.length_take, completed.sized] at whole
      simp only [List.length_cons, List.length_append, List.length_nil, length] at whole
      obtain ⟨payload', seq', reads, seqReads, isPayload, isSent, isOutcome⟩ :=
        completed.accepted accepted (by rw [payloadLen]; omega)
      have crcLength : (tail.take crcFramedLen).length = crcFramedLen := by
        rw [List.length_take, length]
        rfl
      have seqLength : (tail.drop crcFramedLen).length = seqFramedLen := by
        rw [List.length_drop, length]
        rfl
      have isFrame : frame.parser.buffer.take frame.parser.frameLen =
          createFrame payload (tail.take crcFramedLen) (tail.drop crcFramedLen) := by
        rw [frameLen, isBody, createFrame_eq, List.take_append_drop, List.append_assoc]
      have buffer : frame.parser.buffer =
          createFrame payload (tail.take crcFramedLen) (tail.drop crcFramedLen) ++ frame.parser.buffer.drop frame.parser.frameLen := by
        rw [← isFrame, List.take_append_drop]
      have len : frame.parser.frameLen = payload.length + minFrameLen := by
        rw [frameLen, List.length_append, List.length_cons, length]
        simp only [minFrameLen]
        omega
      have wholePayload := getFramePayload_whole completed.complete buffer payloadLen
      have wholeSeq := getFrameSeq_whole completed.complete buffer crcLength seqLength payloadLen
      rw [reads, Except.ok.injEq, Except.ok.injEq] at wholePayload
      rw [seqReads, Except.ok.injEq, Except.ok.injEq] at wholeSeq
      refine ⟨payload, tail.take crcFramedLen, tail.drop crcFramedLen, crcLength, seqLength, isFrame, ⟨front', ?_⟩,
        frameValidation_crc completed.complete buffer crcLength len accepted, by rw [isPayload, wholePayload],
        by rw [isSent, wholeSeq], ?_⟩
      · rw [isChars, createFrame_eq, List.take_append_drop]
        simp
      · intro data delivers
        rw [isOutcome, wholePayload] at delivers
        exact deliver_isDecoding delivers

end GoldenGate.Remote
