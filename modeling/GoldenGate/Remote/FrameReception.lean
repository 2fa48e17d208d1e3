import GoldenGate.Remote.SerialFraming

/-! # A frame is received as it was sent

The validation agrees with the encoder when the length of the frame is right. When an ack has
taken some of its characters, the CRC is looked for too early, and the end of the payload is
among its characters.
-/

namespace GoldenGate.Remote

open Memory Base64

/-! ## Numbers in hex -/

def digitChar (v : Nat) : UInt8 := lookup.getD v 0

theorem lookup_eq : lookup = [48, 49, 50, 51, 52, 53, 54, 55, 56, 57, 65, 66, 67, 68, 69, 70] := by decide +kernel

theorem digitChar_spec : ∀ v : Fin 16, hexDigit (digitChar v) = some (UInt8.ofNat v) ∧ Plain (digitChar v) ∧
    digitChar v ≠ framePayloadEndByte := by
  simp only [digitChar, lookup_eq]
  decide +kernel

/-- The digits of a word, the first one first. -/
def hexDigits (x : Nat) : List Nat :=
  [x / 2 ^ 28 % 16, x / 2 ^ 24 % 16, x / 2 ^ 20 % 16, x / 2 ^ 16 % 16, x / 2 ^ 12 % 16, x / 2 ^ 8 % 16,
    x / 2 ^ 4 % 16, x % 16]

theorem hexDigits_lt {x d : Nat} (h : d ∈ hexDigits x) : d < 16 := by
  simp only [hexDigits, List.mem_cons, List.not_mem_nil, or_false] at h
  omega

theorem upper_digit (x i : Nat) : ((x >>> (8 * i)) &&& 0xF0) >>> 4 = x / 2 ^ (8 * i + 4) % 16 := by
  rw [Nat.shiftRight_and_distrib, ← Nat.shiftRight_add]
  refine (Bytes.and_mask (x >>> (8 * i + 4)) 4).trans ?_
  rw [Nat.shiftRight_eq_div_pow]
  rfl

theorem lower_digit (x i : Nat) : (x >>> (8 * i)) &&& 0x0F = x / 2 ^ (8 * i) % 16 := by
  refine (Bytes.and_mask (x >>> (8 * i)) 4).trans ?_
  rw [Nat.shiftRight_eq_div_pow]
  rfl

theorem itoaHex_eq (x : UInt32) : itoaHex x = (hexDigits x.toNat).map digitChar := by
  simp only [itoaHex, List.flatMap_cons, List.flatMap_nil, upper_digit, lower_digit]
  rw [Nat.mul_zero, pow_zero, Nat.div_one]
  rfl

theorem atoi32From_digit {data : List UInt8} {offset v : Nat} (small : v < 16)
    (there : data[offset]? = some (digitChar v)) (left : Nat) (result : UInt32) :
    ∃ next : UInt32, next.toNat = (result.toNat * 16 + v) % 2 ^ 32 ∧
      atoi32From data (left + 1) offset result = atoi32From data left (offset + 1) next := by
  have digit := (digitChar_spec ⟨v, small⟩).1
  refine ⟨(result <<< 4) ||| (UInt8.ofNat v &&& 0xF).toUInt32, ?_, ?_⟩
  · have bound := result.toNat_lt
    have word : (UInt8.ofNat v &&& 0xF).toUInt32.toNat = v := by
      rw [UInt8.toNat_toUInt32, UInt8.toNat_and, UInt8.toNat_ofNat']
      refine (Bytes.and_mask (v % 2 ^ 8) 4).trans ?_
      omega
    have shifted : (result <<< 4).toNat = (result.toNat % 2 ^ 28) <<< 4 := by
      rw [UInt32.toNat_shiftLeft, Nat.shiftLeft_eq, Nat.shiftLeft_eq]
      simp
      omega
    rw [UInt32.toNat_or, word, shifted, @Bytes.shiftLeft_or _ _ 4 small]
    omega
  · rw [atoi32From, load, there]
    dsimp only [ok_bind]
    simp only at digit
    rw [digit]

theorem atoi32From_digits (digits : List Nat) (small : ∀ d ∈ digits, d < 16) (pre post : List UInt8) (result : UInt32) :
    ∃ value : UInt32, atoi32From (pre ++ digits.map digitChar ++ post) digits.length pre.length result = .ok (.ok value) ∧
      value.toNat = digits.foldl (fun n d => (n * 16 + d) % 2 ^ 32) result.toNat := by
  induction digits generalizing pre result with
  | nil => exact ⟨result, rfl, rfl⟩
  | cons d rest ih =>
      have there : (pre ++ (d :: rest).map digitChar ++ post)[pre.length]? = some (digitChar d) := by simp
      obtain ⟨next, value, step⟩ := atoi32From_digit (small d List.mem_cons_self) there rest.length result
      obtain ⟨last, run, value'⟩ := ih (fun other member => small other (List.mem_cons_of_mem d member))
        (pre ++ [digitChar d]) next
      refine ⟨last, ?_, ?_⟩
      · rw [List.length_cons, step, ← run]
        simp
      · rw [value', value, List.foldl_cons]

theorem next_digit {x : Nat} (bound : x < 2 ^ 32) (k : Nat) :
    (x / 2 ^ (k + 4) * 16 + x / 2 ^ k % 16) % 2 ^ 32 = x / 2 ^ k := by
  have upper : x / 2 ^ (k + 4) = x / 2 ^ k / 16 := by rw [Nat.div_div_eq_div_mul, Nat.pow_add]
  have small : x / 2 ^ k ≤ x := Nat.div_le_self x (2 ^ k)
  rw [upper, Nat.div_add_mod', Nat.mod_eq_of_lt (Nat.lt_of_le_of_lt small bound)]

/-- What `itoa_hex` has written is read back. -/
theorem atoi32_itoaHex (x : UInt32) (pre post : List UInt8) :
    atoi32 (pre ++ itoaHex x ++ post) pre.length = .ok (.ok x) := by
  obtain ⟨value, run, same⟩ := atoi32From_digits (hexDigits x.toNat) (fun d => hexDigits_lt) pre post 0
  have bound := x.toNat_lt
  have back : value = x := by
    have first : 0 = x.toNat / 2 ^ (28 + 4) := (Nat.div_eq_of_lt bound).symm
    have last := next_digit bound 0
    rw [pow_zero, Nat.div_one] at last
    rw [← UInt32.toNat_inj, same]
    simp only [hexDigits, List.foldl_cons, List.foldl_nil, UInt32.toNat_zero]
    rw [first, next_digit bound 28, next_digit bound 24, next_digit bound 20, next_digit bound 16, next_digit bound 12,
      next_digit bound 8, next_digit bound 4, last]
  rw [itoaHex_eq, ← back]
  rw [← back] at run
  exact run

/-- Something else among the characters is an error. -/
theorem atoi32From_failure {data : List UInt8} (left offset : Nat) (result : UInt32) (inside : offset + left ≤ data.length)
    {i : Nat} {c : UInt8} (low : offset ≤ i) (high : i < offset + left) (there : data[i]? = some c)
    (other : hexDigit c = none) : atoi32From data left offset result = .ok (.error .failure) := by
  induction left generalizing offset result with
  | zero => omega
  | succ left ih =>
      rw [atoi32From, load_lt (by omega), ok_bind]
      cases digit : hexDigit data[offset] with
      | none => rfl
      | some v =>
          refine ih (offset + 1) _ (by omega) ?_ (by omega)
          by_cases same : offset = i
          · subst same
            rw [List.getElem?_eq_getElem (by omega)] at there
            cases Option.some.inj there
            rw [other] at digit
            cases digit
          · omega

/-! ## The characters that are written -/

theorem char64_plain : ∀ v : Fin 64, Plain (char64 v) ∧ hexDigit framePayloadEndByte = none := by
  simp only [char64, base64Chars_eq]
  decide +kernel

theorem encodeBlocks_plain (bytes : List UInt8) : ∀ c ∈ encodeBlocks bytes, Plain c := by
  have char {v : Nat} (small : v < 64) : Plain (char64 v) := (char64_plain ⟨v, small⟩).1
  have pad : Plain (charByte '=') := by decide
  induction bytes using encodeBlocks.induct with
  | case1 b0 b1 b2 rest ih =>
      have small0 := b0.toNat_lt
      have small1 := b1.toNat_lt
      have small2 := b2.toNat_lt
      rw [encodeBlocks_block]
      simp only [List.forall_mem_cons]
      exact ⟨char (by omega), char (by omega), char (by omega), char (by omega), ih⟩
  | case2 b0 b1 =>
      have small0 := b0.toNat_lt
      have small1 := b1.toNat_lt
      rw [encodeBlocks_two]
      simp only [List.forall_mem_cons]
      exact ⟨char (by omega), char (by omega), char (by omega), pad, fun _ none_ => by cases none_⟩
  | case3 b0 =>
      have small0 := b0.toNat_lt
      rw [encodeBlocks_one]
      simp only [List.forall_mem_cons]
      exact ⟨char (by omega), char (by omega), pad, pad, fun _ none_ => by cases none_⟩
  | case4 => exact fun _ none_ => by cases none_

theorem itoaHex_plain (x : UInt32) : ∀ c ∈ itoaHex x, Plain c ∧ c ≠ framePayloadEndByte := by
  intro c member
  rw [itoaHex_eq] at member
  obtain ⟨d, digit, rfl⟩ := List.mem_map.mp member
  exact (digitChar_spec ⟨d, hexDigits_lt digit⟩).2

theorem defaultFrameSeqNum_plain : ∀ c ∈ defaultFrameSeqNum, Plain c ∧ c ≠ framePayloadEndByte := by
  intro c member
  rw [List.eq_of_mem_replicate member]
  decide

theorem encode_first (bytes : List UInt8) (some_ : bytes ≠ []) (fits : bytes.length ≤ maxEncodeInputSize) :
    encodeDecodePayload bytes true = .ok (.ok (some (encodeBlocks bytes))) := by
  have length := List.length_pos_iff.mpr some_
  rw [encodeDecodePayload]
  simp only [if_true, encode_ok fits]
  rw [if_pos (by omega), ok_bind]
  dsimp only
  rw [if_neg (by omega)]
  rfl

theorem decode_second {bytes : List UInt8} (some_ : bytes ≠ []) :
    encodeDecodePayload (encodeBlocks bytes) false = .ok (.ok (some bytes)) := by
  have length := List.length_pos_iff.mpr some_
  rw [encodeDecodePayload]
  simp only [Bool.false_eq_true, if_false, decode_encode some_, ok_bind]
  rw [if_pos (by omega)]
  dsimp only
  rw [if_neg (by omega)]
  rfl

/-- The frame of a payload that is not empty. -/
def frameOf (payload : List UInt8) : List UInt8 :=
  createFrame (encodeBlocks payload) (itoaHex (crc32 0 (encodeBlocks payload))) defaultFrameSeqNum

theorem writeFrame_eq {payload frame : List UInt8} (some_ : payload ≠ []) (h : writeFrame payload = .ok (.ok frame)) :
    frame = frameOf payload := by
  by_cases fits : payload.length ≤ maxEncodeInputSize
  · rw [writeFrame, encode_first payload some_ fits] at h
    exact (Except.ok.inj (Except.ok.inj h)).symm
  · have refused (size : Nat) : encode payload size false = (.error .invalidParameters, size) := if_pos (by omega)
    rw [writeFrame, encodeDecodePayload] at h
    simp only [if_true, refused] at h
    cases h

/-! ## Reception -/

/-- The parser has a frame that is valid and gives back the payload and the sequence number. -/
structure Receives (parser : SerialRemoteParser) (payload seq : List UInt8) : Prop where
  complete : parser.frameParsingComplete = true
  valid : frameValidation parser = .ok (.ok ())
  payload : ∃ encoded, parser.getFramePayload = .ok (.ok encoded) ∧
    encodeDecodePayload encoded false = .ok (.ok (some payload))
  seq : parser.getFrameSeq = .ok (.ok seq)

theorem copy_middle (pre middle post : List UInt8) :
    copy (pre ++ middle ++ post) pre.length middle.length = .ok middle := by
  rw [copy, if_pos (by simp only [List.length_append]; omega), List.append_assoc, List.drop_left, List.take_left]

/-- The validation, with the frame in the buffer. -/
theorem frameValidation_eq {parser : SerialRemoteParser} (complete : parser.frameParsingComplete = true) :
    frameValidation parser =
      if parser.frameLen < minFrameLen then .ok (.error .failure)
      else (do
        match ← atoi32 parser.buffer (parser.frameLen - crcFramedLen - seqFramedLen - 1) with
        | .error e => return .error e
        | .ok storedCrc =>
            let covered ← copy parser.buffer 1 (parser.frameLen - minFrameLen)
            return if crc32 0 covered = storedCrc then .ok () else .error .failure) := by
  rw [frameValidation, SerialRemoteParser.getFrameLen, SerialRemoteParser.getFramePtr]
  simp only [complete, Bool.not_true, Bool.false_eq_true, if_false]
  rfl

section Frame

variable {parser : SerialRemoteParser} {payload crc seq room : List UInt8}
  (complete : parser.frameParsingComplete = true) (buffer : parser.buffer = createFrame payload crc seq ++ room)
include complete buffer

omit complete in
theorem frame_covered (len : parser.frameLen = payload.length + minFrameLen) :
    copy parser.buffer 1 (parser.frameLen - minFrameLen) = .ok payload := by
  have middle := copy_middle [frameStartByte] payload ([framePayloadEndByte] ++ crc ++ seq ++ [frameEndByte] ++ room)
  rw [len, Nat.add_sub_cancel, buffer, createFrame, ← middle]
  simp only [List.append_assoc, List.length_singleton]

omit complete buffer in
theorem frame_crcPlace (len : parser.frameLen = payload.length + minFrameLen) :
    parser.frameLen - crcFramedLen - seqFramedLen - 1 =
      ([frameStartByte] ++ payload ++ [framePayloadEndByte]).length := by
  simp only [len, minFrameLen, crcFramedLen, seqFramedLen, List.length_append, List.length_singleton]
  omega

/-- With the right length, the validation compares the CRC of the payload. -/
theorem frameValidation_whole {value : UInt32} (crcText : crc = itoaHex value)
    (len : parser.frameLen = payload.length + minFrameLen) :
    frameValidation parser = .ok (if crc32 0 payload = value then .ok () else .error .failure) := by
  have stored : atoi32 parser.buffer (parser.frameLen - crcFramedLen - seqFramedLen - 1) = .ok (.ok value) := by
    have read := atoi32_itoaHex value ([frameStartByte] ++ payload ++ [framePayloadEndByte]) (seq ++ [frameEndByte] ++ room)
    rw [frame_crcPlace len, buffer, createFrame, crcText, ← read]
    simp only [List.append_assoc]
  rw [frameValidation_eq complete, if_neg (by omega), stored, ok_bind]
  dsimp only
  rw [frame_covered buffer len]
  rfl

/-- With a length that is up to eight characters short, the end of the payload is where the
    CRC should be. -/
theorem frameValidation_short (crcLength : crc.length = crcFramedLen) (seqLength : seq.length = seqFramedLen)
    {left : Nat} (short : parser.frameLen + left = payload.length + minFrameLen)
    (some_ : left ≠ 0) (few : left ≤ seqFramedLen) : frameValidation parser = .ok (.error .failure) := by
  rw [frameValidation_eq complete]
  by_cases tiny : parser.frameLen < minFrameLen
  · rw [if_pos tiny]
  simp only [minFrameLen, crcFramedLen, seqFramedLen] at tiny short few crcLength seqLength
  have there : parser.buffer[1 + payload.length]? = some framePayloadEndByte := by
    rw [buffer, createFrame]
    simp [Nat.add_comm 1 payload.length]
  have fails : atoi32 parser.buffer (parser.frameLen - crcFramedLen - seqFramedLen - 1) = .ok (.error .failure) := by
    refine atoi32From_failure 8 _ 0 ?_ ?_ ?_ there (char64_plain 0).2
    · rw [buffer, createFrame]
      simp only [List.length_append, List.length_singleton, crcFramedLen, seqFramedLen, crcLength, seqLength]
      omega
    · simp only [crcFramedLen, seqFramedLen]
      omega
    · simp only [crcFramedLen, seqFramedLen]
      omega
  rw [if_neg (by simp only [minFrameLen, crcFramedLen, seqFramedLen]; omega), fails]
  rfl

theorem getFramePayload_whole (len : parser.payloadLen = payload.length) :
    parser.getFramePayload = .ok (.ok payload) := by
  have middle := copy_middle [frameStartByte] payload ([framePayloadEndByte] ++ crc ++ seq ++ [frameEndByte] ++ room)
  have covered : copy parser.buffer 1 parser.payloadLen = .ok payload := by
    rw [len, buffer, createFrame, ← middle]
    simp only [List.append_assoc, List.length_singleton]
  rw [SerialRemoteParser.getFramePayload, complete, covered]
  rfl

theorem getFrameSeq_whole (crcLength : crc.length = crcFramedLen) (seqLength : seq.length = seqFramedLen)
    (len : parser.payloadLen = payload.length) : parser.getFrameSeq = .ok (.ok seq) := by
  have middle := copy_middle ([frameStartByte] ++ payload ++ [framePayloadEndByte] ++ crc) seq ([frameEndByte] ++ room)
  have covered : copy parser.buffer (1 + parser.payloadLen + 1 + crcFramedLen) seqFramedLen = .ok seq := by
    have place : 1 + parser.payloadLen + 1 + crcFramedLen =
        ([frameStartByte] ++ payload ++ [framePayloadEndByte] ++ crc).length := by
      simp only [len, List.length_append, List.length_singleton, crcLength]
    rw [place, ← seqLength, buffer, createFrame, ← middle]
    simp only [List.append_assoc]
  rw [SerialRemoteParser.getFrameSeq, complete, covered]
  rfl

end Frame

/-- A frame that comes after any other characters is received if these have not run over the
    buffer and have left no ack that waits for characters, and only then. -/
theorem frame_received_iff (payload frame : List UInt8) (some_ : payload ≠ [])
    (written : writeFrame payload = .ok (.ok frame)) (fits : frame.length ≤ maxFrameLen) (before : List UInt8)
    (noExit : shellExit ∉ before) :
    (∃ parser, SerialRemoteParser.reset.feed (before ++ frame) = .ok parser ∧
        Receives parser payload defaultFrameSeqNum) ↔
      overruns false 0 before = false ∧ ackLeft 0 before = 0 := by
  have same := writeFrame_eq some_ written
  rw [frameOf] at same
  subst same
  have leaves := feed_before before noExit .reset false 0 0 reset_tracks
  rw [feed_append]
  rw [Leaves] at leaves
  cases overrun : overruns false 0 before with
  | true =>
      rw [overrun, if_pos rfl] at leaves
      rw [leaves]
      refine ⟨?_, fun h => (by cases h.1)⟩
      rintro ⟨parser, run, -⟩
      cases run
  | false =>
      rw [overrun, if_neg (by decide)] at leaves
      obtain ⟨parser, framing, used, run, tracks⟩ := leaves
      have crcPlain := itoaHex_plain (crc32 0 (encodeBlocks payload))
      have tail : ∀ c ∈ itoaHex (crc32 0 (encodeBlocks payload)) ++ defaultFrameSeqNum,
          Plain c ∧ c ≠ framePayloadEndByte := by
        intro c member
        cases List.mem_append.mp member with
        | inl crc => exact crcPlain c crc
        | inr seq => exact defaultFrameSeqNum_plain c seq
      obtain ⟨parser', feed, complete, len, payloadLen, room, buffer⟩ :=
        feed_frame tracks (encodeBlocks_plain payload) (fun c member => (tail c member).1)
          (fun member => (tail _ member).2 rfl) rfl fits
      rw [run]
      change (∃ last, parser.feed _ = .ok last ∧ _) ↔ _
      rw [feed]
      by_cases left : ackLeft 0 before = 0
      · rw [left] at len
        refine ⟨fun _ => ⟨rfl, left⟩, fun _ => ⟨parser', rfl, complete, ?_, ⟨_, ?_, decode_second some_⟩, ?_⟩⟩
        · rw [frameValidation_whole complete buffer rfl len, if_pos rfl]
        · exact getFramePayload_whole complete buffer (payloadLen left)
        · exact getFrameSeq_whole complete buffer rfl rfl (payloadLen left)
      · constructor
        · rintro ⟨other, same, receives⟩
          cases same
          have valid := receives.valid
          rw [frameValidation_short complete buffer rfl rfl len left tracks.acking.few] at valid
          cases valid
        · exact fun h => absurd h.2 left

theorem frame_received_after_ack :
    ∃ parser, SerialRemoteParser.reset.feed ("@12345678ab#x".toList.map charByte ++ frameOf [0x66]) = .ok parser ∧
      Receives parser [0x66] defaultFrameSeqNum :=
  (frame_received_iff [0x66] (frameOf [0x66]) (by decide) (by decide +kernel) (by decide +kernel)
    ("@12345678ab#x".toList.map charByte) (by decide)).mpr ⟨by decide, by decide⟩

/-- An ack that is not finished spoils the next frame. -/
theorem unfinished_ack_spoils :
    ¬ ∀ (payload frame : List UInt8), payload ≠ [] → writeFrame payload = .ok (.ok frame) →
      frame.length ≤ maxFrameLen → ∀ before : List UInt8, shellExit ∉ before →
        ∃ parser, SerialRemoteParser.reset.feed (before ++ frame) = .ok parser ∧
          Receives parser payload defaultFrameSeqNum := by
  intro h
  obtain ⟨parser, run, receives⟩ := h [0x66] (frameOf [0x66]) (by decide) (by decide +kernel) (by decide +kernel)
    ("@12".toList.map charByte) (by decide)
  have invalid : (SerialRemoteParser.reset.feed ("@12".toList.map charByte ++ frameOf [0x66])).bind frameValidation =
      .ok (.error .failure) := by
    decide +kernel
  rw [run] at invalid
  change frameValidation parser = _ at invalid
  rw [receives.valid] at invalid
  cases invalid

end GoldenGate.Remote
