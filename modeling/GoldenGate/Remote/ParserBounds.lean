import GoldenGate.Remote.FrameReception

/-! # Where the parser writes and what is read of it

The parser stores characters at an index that only a start byte takes back, and its two lengths
grow and stay on their own: a start byte of an ack takes back the index, and not the length of the
frame, and the length of the payload is the one of the last payload end, which may be another
frame's. What is read of a complete frame is found by these lengths.
-/

namespace GoldenGate.Remote

open Memory Base64

/-- What can happen to a parser. -/
inductive ParserEvent where
  | char (c : UInt8)
  | reset
  deriving Repr, DecidableEq

def SerialRemoteParser.onEvent (self : SerialRemoteParser) : ParserEvent → Access SerialRemoteParser
  | .char c => do
      let (self, _) ← self.putData c
      return self
  | .reset => .ok .reset

/-! ## What is read -/

/-- Everything that is accessed is inside its object. -/
def Inside {α : Type} (access : Access α) : Prop := ∃ value, access = .ok value

/-- When a frame is reported, its payload, its sequence number and what is validated of it are read
    inside the buffer. -/
structure ReadsInside (parser : SerialRemoteParser) : Prop where
  payload : parser.frameParsingComplete = true → Inside parser.getFramePayload
  seq : parser.frameParsingComplete = true → Inside parser.getFrameSeq
  validation : parser.frameParsingComplete = true → Inside (frameValidation parser)

/-- From a state on, every write is inside the buffer, and so is every read of a complete frame. -/
def StaysInside (parser : SerialRemoteParser) : List ParserEvent → Prop
  | [] => ReadsInside parser
  | event :: events => ReadsInside parser ∧ ∃ next, parser.onEvent event = .ok next ∧ StaysInside next events

theorem inside_ok {α : Type} (value : α) : Inside (.ok value) := ⟨value, rfl⟩

theorem inside_bind {α β : Type} {access : Access α} {rest : α → Access β} :
    Inside (access >>= rest) ↔ ∃ value, access = .ok value ∧ Inside (rest value) := by
  cases access with
  | error fault => exact ⟨fun ⟨_, none_⟩ => (by cases none_), fun ⟨_, none_, _⟩ => (by cases none_)⟩
  | ok value => exact ⟨fun inside => ⟨value, rfl, inside⟩, fun ⟨_, same, inside⟩ => (by cases same; exact inside)⟩

theorem inside_copy {region : List UInt8} {offset size : Nat} :
    Inside (copy region offset size) ↔ offset + size ≤ region.length := by
  unfold copy
  split
  case isTrue fits => exact ⟨fun _ => fits, fun _ => inside_ok _⟩
  case isFalse tooLong => exact ⟨fun ⟨_, none_⟩ => (by cases none_), fun fits => absurd fits tooLong⟩

/-- A number is read up to its last digit, or up to a character that is none. -/
theorem inside_atoi32From {data : List UInt8} (left offset : Nat) (result : UInt32) :
    Inside (atoi32From data left offset result) ↔
      left = 0 ∨ offset + left ≤ data.length ∨ ∃ i c, offset ≤ i ∧ i < offset + left ∧ data[i]? = some c ∧ hexDigit c = none := by
  induction left generalizing offset result with
  | zero => exact ⟨fun _ => .inl rfl, fun _ => inside_ok _⟩
  | succ left ih =>
      rw [atoi32From, load]
      cases there : data[offset]? with
      | none =>
          have outside := List.getElem?_eq_none_iff.mp there
          constructor
          · rintro ⟨_, none_⟩
            cases none_
          · rintro (none_ | fits | ⟨i, c, low, high, there', -⟩)
            · cases none_
            · omega
            · have inside := (List.getElem?_eq_some_iff.mp there').1
              omega
      | some byte =>
          have inside := (List.getElem?_eq_some_iff.mp there).1
          rw [ok_bind]
          cases digit : hexDigit byte with
          | none => exact ⟨fun _ => .inr (.inr ⟨offset, byte, le_refl _, by omega, there, digit⟩), fun _ => inside_ok _⟩
          | some value =>
              refine (ih (offset + 1) _).trans ?_
              constructor
              · rintro (none_ | fits | ⟨i, c, low, high, there', other⟩)
                · exact .inr (.inl (by omega))
                · exact .inr (.inl (by omega))
                · exact .inr (.inr ⟨i, c, by omega, by omega, there', other⟩)
              · rintro (none_ | fits | ⟨i, c, low, high, there', other⟩)
                · cases none_
                · exact .inr (.inl (by omega))
                · refine .inr (.inr ⟨i, c, Nat.lt_of_le_of_ne low ?_, by omega, there', other⟩)
                  rintro rfl
                  rw [there] at there'
                  cases there'
                  rw [digit] at other
                  cases other

/-- The digits that are looked for before the end of a frame are in the buffer, or one that is in the
    buffer is no digit. -/
def CrcInside (buffer : List UInt8) (frameLen : Nat) : Prop :=
  frameLen < minFrameLen ∨ frameLen ≤ maxFrameLen + 1 + seqFramedLen ∨
    ∃ i c, frameLen ≤ i + 1 + seqFramedLen + crcFramedLen ∧ buffer[i]? = some c ∧ hexDigit c = none

/-- The places of a complete frame. -/
structure LengthsFit (buffer : List UInt8) (frameLen payloadLen : Nat) : Prop where
  seq : 1 + payloadLen + 1 + crcFramedLen + seqFramedLen ≤ maxFrameLen
  crc : CrcInside buffer frameLen

section Complete

variable {parser : SerialRemoteParser} (complete : parser.frameParsingComplete = true)
  (sized : parser.buffer.length = maxFrameLen)
include complete sized

theorem inside_frameValidation : Inside (frameValidation parser) ↔ CrcInside parser.buffer parser.frameLen := by
  rw [frameValidation_eq complete, CrcInside]
  by_cases short : parser.frameLen < minFrameLen
  · rw [if_pos short]
    exact ⟨fun _ => .inl short, fun _ => inside_ok _⟩
  rw [if_neg short, inside_bind]
  have digits := @inside_atoi32From parser.buffer 8 (parser.frameLen - crcFramedLen - seqFramedLen - 1) 0
  simp only [minFrameLen, crcFramedLen, seqFramedLen] at short digits ⊢
  rw [sized] at digits
  constructor
  · rintro ⟨value, reads, -⟩
    rcases digits.mp ⟨value, reads⟩ with none_ | fits | ⟨i, c, low, high, there, other⟩
    · cases none_
    · exact .inr (.inl (by omega))
    · exact .inr (.inr ⟨i, c, by omega, there, other⟩)
  · intro inside
    -- the bytes that the CRC covers end before its digits
    have digitsInside : parser.frameLen ≤ 512 + 16 ∧ Inside (atoi32From parser.buffer 8 (parser.frameLen - 8 - 8 - 1) 0) := by
      rcases inside with tiny | fits | ⟨i, c, low, there, other⟩
      · exact absurd tiny short
      · exact ⟨Nat.le_trans fits (by decide), digits.mpr (.inr (.inl (by omega)))⟩
      · have small := (List.getElem?_eq_some_iff.mp there).1
        rw [sized] at small
        simp only [maxFrameLen] at small
        refine ⟨by omega, digits.mpr ?_⟩
        rcases Nat.lt_or_ge i (parser.frameLen - 8 - 8 - 1 + 8) with early | late
        · exact .inr (.inr ⟨i, c, by omega, early, there, other⟩)
        · exact .inr (.inl (by simp only [maxFrameLen]; omega))
    obtain ⟨few, value, reads⟩ := digitsInside
    refine ⟨value, reads, ?_⟩
    cases value with
    | error e => exact inside_ok _
    | ok storedCrc =>
        refine inside_bind.mpr ?_
        obtain ⟨covered, copies⟩ := (@inside_copy parser.buffer 1 (parser.frameLen - (1 + 1 + 8 + 8 + 1))).mpr
          (by rw [sized]; simp only [maxFrameLen]; omega)
        exact ⟨covered, copies, inside_ok _⟩

theorem inside_getFramePayload : Inside parser.getFramePayload ↔ 1 + parser.payloadLen ≤ maxFrameLen := by
  rw [SerialRemoteParser.getFramePayload, complete, ← sized]
  simp only [Bool.not_true, Bool.false_eq_true, if_false, inside_bind]
  refine Iff.trans ?_ inside_copy
  exact exists_congr fun value => and_iff_left (inside_ok _)

theorem inside_getFrameSeq :
    Inside parser.getFrameSeq ↔ 1 + parser.payloadLen + 1 + crcFramedLen + seqFramedLen ≤ maxFrameLen := by
  rw [SerialRemoteParser.getFrameSeq, complete, ← sized]
  simp only [Bool.not_true, Bool.false_eq_true, if_false, inside_bind]
  refine Iff.trans ?_ inside_copy
  exact exists_congr fun value => and_iff_left (inside_ok _)

theorem readsInside_iff : ReadsInside parser ↔ LengthsFit parser.buffer parser.frameLen parser.payloadLen := by
  have seq := inside_getFrameSeq complete sized
  have payload := inside_getFramePayload complete sized
  have validation := inside_frameValidation complete sized
  constructor
  · intro reads
    exact ⟨seq.mp (reads.seq complete), validation.mp (reads.validation complete)⟩
  · intro fits
    have room := fits.seq
    exact ⟨fun _ => payload.mpr (by omega), fun _ => seq.mpr fits.seq, fun _ => validation.mpr fits.crc⟩

end Complete

/-! ## One character -/

/-- The character is stored behind others. -/
def Stores (parser : SerialRemoteParser) (c : UInt8) : Prop :=
  c = frameEndByte ∧ parser.frameParsingStarted = true ∨
    Plain c ∧ (parser.ackParsingStarted = true ∨ parser.frameParsingStarted = true)

/-- A character that is stored has a place in the buffer, and a frame that it ends has lengths that fit. -/
structure CharFits (parser : SerialRemoteParser) (c : UInt8) : Prop where
  index : Stores parser c → parser.bufferIdx < maxFrameLen
  frame : c = frameEndByte → parser.frameParsingStarted = true →
    LengthsFit (stored parser c).buffer (parser.frameLen + 1) parser.payloadLen

def EventFits (parser : SerialRemoteParser) : ParserEvent → Prop
  | .char c => CharFits parser c
  | .reset => True

/-- Every event of a run fits the state that it comes to. -/
def EventsFit (parser : SerialRemoteParser) : List ParserEvent → Prop
  | [] => True
  | event :: events => EventFits parser event ∧ ∀ next, parser.onEvent event = .ok next → EventsFit next events

/-- The parser of a run. It has not started the frame that is complete. -/
structure Held (parser : SerialRemoteParser) : Prop where
  tracks : ∃ framing used left, Tracks parser framing used left
  idle : parser.frameParsingComplete = true → parser.frameParsingStarted = false

/-- A complete frame stays as it was, but for the places that an ack can take. -/
def Keeps (parser next : SerialRemoteParser) : Prop :=
  next.frameParsingComplete = true → parser.frameParsingComplete = true ∧ next.frameLen = parser.frameLen ∧
    next.payloadLen = parser.payloadLen ∧ ∀ i : Nat, ackFrameLen < i → next.buffer[i]? = parser.buffer[i]?

/-- What one character does. -/
inductive CharOutcome (parser : SerialRemoteParser) (c : UInt8) : Prop where
  | overflows (put : parser.onEvent (.char c) = .error .outOfBounds) (stores : Stores parser c)
      (full : maxFrameLen ≤ parser.bufferIdx)
  | keeps (next : SerialRemoteParser) (put : parser.onEvent (.char c) = .ok next) (held : Held next)
      (keeps : Keeps parser next) (fits : CharFits parser c)
  | ends (next : SerialRemoteParser) (put : parser.onEvent (.char c) = .ok next) (held : Held next)
      (isEnd : c = frameEndByte) (started : parser.frameParsingStarted = true) (room : parser.bufferIdx < maxFrameLen)
      (complete : next.frameParsingComplete = true) (buffer : next.buffer = (stored parser c).buffer)
      (frameLen : next.frameLen = parser.frameLen + 1) (payloadLen : next.payloadLen = parser.payloadLen)

theorem onEvent_char {parser next : SerialRemoteParser} {c : UInt8} {result : Except Error Unit}
    (put : parser.putData c = .ok (next, result)) : parser.onEvent (.char c) = .ok next := by
  rw [SerialRemoteParser.onEvent, put]
  rfl

theorem onEvent_overflow {parser : SerialRemoteParser} {c : UInt8} (put : parser.putData c = .error .outOfBounds) :
    parser.onEvent (.char c) = .error .outOfBounds := by
  rw [SerialRemoteParser.onEvent, put]
  rfl

/-- One character is stored at one place. -/
theorem stored_getElem? {parser : SerialRemoteParser} (room : parser.bufferIdx < parser.buffer.length) (c : UInt8) {i : Nat}
    (other : parser.bufferIdx < i) : (stored parser c).buffer[i]? = parser.buffer[i]? := by
  have before : (parser.buffer.take parser.bufferIdx ++ [c]).length = parser.bufferIdx + 1 := by
    rw [List.length_append, List.length_take, List.length_singleton, Nat.min_eq_left (Nat.le_of_lt room)]
  rw [stored, List.getElem?_append_right (by omega), before, List.getElem?_drop]
  congr 1
  omega

theorem CharFits.start {parser : SerialRemoteParser} {c : UInt8} (isStart : c = ackFrameStartByte ∨ c = frameStartByte) :
    CharFits parser c where
  index := by
    rintro (⟨isEnd, -⟩ | ⟨plain, -⟩)
    · rcases isStart with rfl | rfl <;> exact absurd isEnd (by decide)
    · exact (isStart.elim plain.1 plain.2.1).elim
  frame := by
    intro isEnd
    rcases isStart with rfl | rfl <;> exact absurd isEnd (by decide)

theorem Held.ackStart {parser : SerialRemoteParser} (held : Held parser) : CharOutcome parser ackFrameStartByte := by
  obtain ⟨framing, used, left, tracks⟩ := held.tracks
  obtain ⟨next, put, tracks'⟩ := tracks.ackStart
  have same := (putData_ackStart tracks.room_start).symm.trans put
  cases same
  refine .keeps _ (onEvent_char put) ⟨⟨_, _, _, tracks'⟩, held.idle⟩ (fun complete => ⟨complete, rfl, rfl, ?_⟩) (.start (.inl rfl))
  intro i high
  exact @stored_getElem? { parser with bufferIdx := 0 } tracks.room_start ackFrameStartByte i (Nat.zero_lt_of_lt high)

theorem Held.frameStart {parser : SerialRemoteParser} (held : Held parser) : CharOutcome parser frameStartByte := by
  obtain ⟨framing, used, left, tracks⟩ := held.tracks
  obtain ⟨next, put, tracks', incomplete, -⟩ := tracks.frameStart
  have notComplete : next.frameParsingComplete ≠ true := by rw [incomplete]; decide
  exact .keeps next (onEvent_char put) ⟨⟨_, _, _, tracks'⟩, fun complete => absurd complete notComplete⟩
    (fun complete => absurd complete notComplete) (.start (.inr rfl))

theorem Held.frameEnd {parser : SerialRemoteParser} (held : Held parser) : CharOutcome parser frameEndByte := by
  obtain ⟨framing, used, left, tracks⟩ := held.tracks
  cases started : parser.frameParsingStarted with
  | false =>
      have put := @putData_frameEnd parser
      rw [started, if_neg (by decide)] at put
      have notStarted : ¬parser.frameParsingStarted = true := by rw [started]; decide
      refine .keeps parser (onEvent_char put) held (fun complete => ⟨complete, rfl, rfl, fun _ _ => rfl⟩) ⟨?_, ?_⟩
      · rintro (⟨-, framed⟩ | ⟨plain, -⟩)
        · exact absurd framed notStarted
        · exact absurd rfl plain.2.2.1
      · exact fun _ framed => absurd framed notStarted
  | true =>
      have put := @putData_frameEnd parser
      rw [started, if_pos rfl] at put
      rcases Nat.lt_or_ge parser.bufferIdx maxFrameLen with room | full
      · rw [append_ok (by rw [tracks.buffer]; exact room)] at put
        have framed : framing = true := tracks.framed.symm.trans started
        obtain ⟨next, put', tracks'⟩ := tracks.frameEnd fun framed => tracks.index framed ▸ room
        have same := put.symm.trans put'
        cases same
        exact .ends _ (onEvent_char put) ⟨⟨_, _, _, tracks'⟩, fun _ => rfl⟩ rfl started room rfl rfl rfl rfl
      · rw [append_full (by rw [tracks.buffer]; exact full)] at put
        exact .overflows (onEvent_overflow put) (.inl ⟨rfl, started⟩) full

theorem Held.plain {parser : SerialRemoteParser} (held : Held parser) {c : UInt8} (plain : Plain c) : CharOutcome parser c := by
  obtain ⟨framing, used, left, tracks⟩ := held.tracks
  have noEnd : c = frameEndByte → parser.frameParsingStarted = true →
      LengthsFit (stored parser c).buffer (parser.frameLen + 1) parser.payloadLen := fun isEnd => absurd isEnd plain.2.2.1
  by_cases waiting : left ≠ 0
  · have room := tracks.room_ack waiting
    have near := tracks.near waiting
    have started : parser.ackParsingStarted = true := by rw [tracks.acking.started, decide_eq_true waiting]
    obtain ⟨next, put, tracks', -⟩ := tracks.plain_ack plain waiting
    have same := (putData_ack plain started room).symm.trans put
    cases same
    refine .keeps _ (onEvent_char put) ⟨⟨_, _, _, tracks'⟩, held.idle⟩ (fun complete => ⟨complete, rfl, rfl, ?_⟩)
      ⟨fun _ => tracks.buffer ▸ room, noEnd⟩
    intro i high
    have outside : framing = false := tracks.framed.symm.trans (held.idle complete)
    rw [outside] at near
    simp only [Bool.false_eq_true, if_false] at near
    exact stored_getElem? room c (by omega)
  · have none_ : left = 0 := not_not.mp waiting
    have idle : parser.ackParsingStarted = false := by rw [tracks.acking.started, none_]; rfl
    cases started : parser.frameParsingStarted with
    | false =>
        refine .keeps parser (onEvent_char (putData_ignored plain idle started)) held
          (fun complete => ⟨complete, rfl, rfl, fun _ _ => rfl⟩) ⟨?_, noEnd⟩
        rintro (⟨isEnd, -⟩ | ⟨-, acks | framed⟩)
        · exact absurd isEnd plain.2.2.1
        · rw [idle] at acks
          cases acks
        · rw [started] at framed
          cases framed
    | true =>
        have framed : framing = true := tracks.framed.symm.trans started
        have put := tracks.plain_frame plain none_ framed
        have index := tracks.index framed
        split at put
        case isTrue room =>
            obtain ⟨next, put, tracks', -, -, -, complete, -⟩ := put
            have notComplete : next.frameParsingComplete ≠ true := by
              intro isComplete
              have outside := held.idle (complete ▸ isComplete)
              rw [started] at outside
              cases outside
            exact .keeps next (onEvent_char put) ⟨⟨_, _, _, tracks'⟩, fun isComplete => absurd isComplete notComplete⟩
              (fun isComplete => absurd isComplete notComplete) ⟨fun _ => index ▸ room, noEnd⟩
        case isFalse full =>
            exact .overflows (onEvent_overflow put) (.inr ⟨plain, .inr started⟩) (index ▸ Nat.le_of_not_lt full)

theorem Held.shellExit {parser : SerialRemoteParser} (held : Held parser) : CharOutcome parser shellExit := by
  obtain ⟨framing, used, left, tracks⟩ := held.tracks
  have put : parser.putData Remote.shellExit = .ok ({ parser with shellExitState := true }, .error .remoteExit) := rfl
  refine .keeps _ (onEvent_char put) ⟨⟨framing, used, left, ?_⟩, held.idle⟩ (fun complete => ⟨complete, rfl, rfl, fun _ _ => rfl⟩) ⟨?_, ?_⟩
  · exact ⟨tracks.buffer, tracks.framed, tracks.index, ⟨tracks.acking.few, tracks.acking.started, tracks.acking.len⟩, tracks.near⟩
  · rintro (⟨isEnd, -⟩ | ⟨plain, -⟩)
    · cases isEnd
    · exact absurd rfl plain.2.2.2
  · intro isEnd
    cases isEnd

theorem Held.char {parser : SerialRemoteParser} (held : Held parser) (c : UInt8) : CharOutcome parser c := by
  by_cases ack : c = ackFrameStartByte
  · exact ack ▸ held.ackStart
  by_cases start : c = frameStartByte
  · exact start ▸ held.frameStart
  by_cases finish : c = frameEndByte
  · exact finish ▸ held.frameEnd
  by_cases isExit : c = Remote.shellExit
  · exact isExit ▸ held.shellExit
  exact held.plain ⟨ack, start, finish, isExit⟩

theorem held_reset : Held .reset := ⟨⟨_, _, _, reset_tracks⟩, fun complete => nomatch complete⟩

theorem readsInside_reset : ReadsInside .reset :=
  ⟨(fun complete => nomatch complete), (fun complete => nomatch complete), (fun complete => nomatch complete)⟩

theorem Held.sized {parser : SerialRemoteParser} (held : Held parser) : parser.buffer.length = maxFrameLen := by
  obtain ⟨framing, used, left, tracks⟩ := held.tracks
  exact tracks.buffer

/-- What is read of a complete frame is still inside. -/
theorem ReadsInside.keeps {parser next : SerialRemoteParser} (reads : ReadsInside parser) (held : Held parser)
    (held' : Held next) (keeps : Keeps parser next) : ReadsInside next := by
  cases isComplete : next.frameParsingComplete with
  | false =>
      have notComplete : ¬next.frameParsingComplete = true := by rw [isComplete]; decide
      exact ⟨fun complete => absurd complete notComplete, fun complete => absurd complete notComplete,
        fun complete => absurd complete notComplete⟩
  | true =>
      obtain ⟨complete, frameLen, payloadLen, buffer⟩ := keeps isComplete
      have fits := (readsInside_iff complete held.sized).mp reads
      refine (readsInside_iff isComplete held'.sized).mpr ⟨payloadLen ▸ fits.seq, ?_⟩
      rw [frameLen]
      rcases Nat.lt_or_ge (maxFrameLen + 1 + seqFramedLen) parser.frameLen with long | short
      · rcases fits.crc with tiny | few | ⟨i, c, low, there, other⟩
        · exact .inl tiny
        · exact absurd few (Nat.not_le.mpr long)
        · -- an ack does not come that far
          simp only [maxFrameLen, seqFramedLen, crcFramedLen] at long low
          have far : ackFrameLen < i := by
            simp only [ackFrameLen, seqFramedLen]
            omega
          exact .inr (.inr ⟨i, c, by simp only [seqFramedLen, crcFramedLen]; omega, (buffer i far).trans there, other⟩)
      · exact .inr (.inl short)

theorem Held.onEvent {parser next : SerialRemoteParser} (held : Held parser) {event : ParserEvent}
    (put : parser.onEvent event = .ok next) : Held next := by
  cases event with
  | reset =>
      cases put
      exact held_reset
  | char c =>
      cases held.char c with
      | overflows fails =>
          rw [fails] at put
          cases put
      | keeps _ put' held' | ends _ put' held' =>
          rw [put'] at put
          cases put
          exact held'

/-- One event stays inside exactly when it fits. -/
theorem Held.event_iff {parser : SerialRemoteParser} (held : Held parser) (reads : ReadsInside parser) (event : ParserEvent) :
    EventFits parser event ↔ ∃ next, parser.onEvent event = .ok next ∧ ReadsInside next := by
  cases event with
  | reset => exact ⟨fun _ => ⟨.reset, rfl, readsInside_reset⟩, fun _ => trivial⟩
  | char c =>
      cases held.char c with
      | overflows put stores full =>
          constructor
          · intro fits
            exact absurd (fits.index stores) (Nat.not_lt.mpr full)
          · rintro ⟨next, put', -⟩
            rw [put] at put'
            cases put'
      | keeps next put held' keeps fits =>
          exact ⟨fun _ => ⟨next, put, reads.keeps held held' keeps⟩, fun _ => fits⟩
      | ends next put held' isEnd started room complete buffer frameLen payloadLen =>
          have inside := readsInside_iff complete held'.sized
          rw [buffer, frameLen, payloadLen] at inside
          constructor
          · intro fits
            exact ⟨next, put, inside.mpr (fits.frame isEnd started)⟩
          · rintro ⟨other, put', reads'⟩
            rw [put] at put'
            cases put'
            exact ⟨fun _ => room, fun _ _ => inside.mp reads'⟩

/-! ## Runs -/

theorem StaysInside.reads {parser : SerialRemoteParser} {events : List ParserEvent} (inside : StaysInside parser events) :
    ReadsInside parser := by
  cases events with
  | nil => exact inside
  | cons event events => exact inside.1

theorem Held.staysInside_iff {parser : SerialRemoteParser} (held : Held parser) (reads : ReadsInside parser)
    (events : List ParserEvent) : StaysInside parser events ↔ EventsFit parser events := by
  induction events generalizing parser with
  | nil => exact ⟨fun _ => trivial, fun _ => reads⟩
  | cons event events ih =>
      have one := held.event_iff reads event
      constructor
      · rintro ⟨-, next, put, inside⟩
        refine ⟨one.mpr ⟨next, put, inside.reads⟩, ?_⟩
        intro other put'
        rw [put] at put'
        cases put'
        exact (ih (held.onEvent put) inside.reads).mp inside
      · rintro ⟨fits, later⟩
        obtain ⟨next, put, reads'⟩ := one.mp fits
        exact ⟨reads, next, put, (ih (held.onEvent put) reads').mpr (later next put)⟩

/-- Whatever characters and resets come in, the parser writes inside its buffer and every complete frame is
    read inside it exactly when each character that is stored comes at an index inside the buffer, and each
    frame ends with the last payload end and the digits of its CRC far enough from the end of the buffer. -/
theorem parser_stays_inside_iff (events : List ParserEvent) :
    StaysInside .reset events ↔ EventsFit .reset events := held_reset.staysInside_iff readsInside_reset events

theorem StaysInside.feed {parser : SerialRemoteParser} {chars : List UInt8} (inside : StaysInside parser (chars.map .char)) :
    ∃ next, parser.feed chars = .ok next := by
  induction chars generalizing parser with
  | nil => exact ⟨parser, rfl⟩
  | cons c rest ih =>
      obtain ⟨-, next, put, inside⟩ := inside
      obtain ⟨⟨next', result⟩, put', same⟩ := bind_ok put
      cases same
      obtain ⟨last, feeds⟩ := ih inside
      exact ⟨last, (feed_cons put' rest).trans feeds⟩

/-- A frame that does not end runs over the buffer. -/
theorem overruns_replicate {c : UInt8} (plain : Plain c) (count used : Nat) (long : maxFrameLen < used + count) (some_ : 0 < count) :
    overruns true used (List.replicate count c) = true := by
  induction count generalizing used with
  | zero => cases some_
  | succ count ih =>
      rw [List.replicate_succ]
      rcases Nat.lt_or_ge used maxFrameLen with small | full
      · rw [overruns_inside plain.1 plain.2.1 small, decide_eq_true plain.2.2.1]
        exact ih (used + 1) (by omega) (by omega)
      · exact overruns_full plain.1 plain.2.1 full _

/-- A start byte and as many other characters as the buffer has places. -/
theorem long_frame_overflows : ¬∀ events : List ParserEvent, StaysInside .reset events := by
  intro inside
  have plain : Plain (charByte 'a') := by decide
  obtain ⟨count, isSize⟩ : ∃ count, count = maxFrameLen := ⟨_, rfl⟩
  obtain ⟨next, feeds⟩ := (inside ((frameStartByte :: List.replicate count (charByte 'a')).map .char)).feed
  have noExit : shellExit ∉ frameStartByte :: List.replicate count (charByte 'a') := by
    intro member
    cases member with
    | tail _ later => exact absurd (List.eq_of_mem_replicate later) (by decide)
  have leaves := feed_before _ noExit .reset false 0 0 reset_tracks
  have overrun : overruns false 0 (frameStartByte :: List.replicate count (charByte 'a')) = true :=
    overruns_replicate plain count 1 (by omega) (by rw [isSize]; decide)
  rw [Leaves, if_pos overrun, feeds] at leaves
  cases leaves

end GoldenGate.Remote
