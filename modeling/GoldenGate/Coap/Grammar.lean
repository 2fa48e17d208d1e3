import GoldenGate.Coap.Message
import GoldenGate.Lib.Bytes

/-! # The grammar of CoAP datagrams

`MessageBytes` is the message format as a relation between a message and its
bytes, with no parser in sight. `decodeOption` reads one option off a byte list;
it is sound and complete for the grammar and serves both decoders of the code:
the bounds-checked option loop of the parser here, the iterator elsewhere.
-/

namespace GoldenGate.Coap

open Memory

namespace Grammar

/-- One option on the wire: the distance to the previous number, and the value. -/
structure WireOption where
  delta : Nat
  value : List UInt8
  deriving Repr, DecidableEq

/-- A nibble with its extension bytes, and the number they stand for. -/
inductive FieldBytes : Nat → List UInt8 → Nat → Prop where
  | short (small : n < 13) : FieldBytes n [] n
  | byte (b : UInt8) : FieldBytes 13 [b] (13 + b.toNat)
  | word (hi lo : UInt8) : FieldBytes 14 [hi, lo] (269 + (hi.toNat * 256 + lo.toNat))

/-- A complete option: header byte, extended delta, extended length, value. -/
inductive OptionBytes : WireOption → List UInt8 → Prop where
  | mk {head : UInt8} {deltaExt lengthExt value : List UInt8} {delta : Nat}
      (deltaField : FieldBytes (head.toNat / 16) deltaExt delta)
      (lengthField : FieldBytes (head.toNat % 16) lengthExt value.length) :
      OptionBytes ⟨delta, value⟩ (head :: (deltaExt ++ (lengthExt ++ value)))

inductive OptionsBytes : List WireOption → List UInt8 → Prop where
  | nil : OptionsBytes [] []
  | cons (first : OptionBytes option bytes) (others : OptionsBytes options rest) :
      OptionsBytes (option :: options) (bytes ++ rest)

/-- Nothing, or the marker and at least one byte. -/
inductive PayloadBytes : List UInt8 → List UInt8 → Prop where
  | absent : PayloadBytes [] []
  | marked (nonempty : payload ≠ []) : PayloadBytes payload (0xFF :: payload)

structure WireMessage where
  type : Nat
  code : UInt8
  messageId : Nat
  token : List UInt8
  options : List WireOption
  payload : List UInt8

/-- The datagrams of the format: a version 1 header, the token it announces, options
    and payload. -/
inductive MessageBytes : WireMessage → List UInt8 → Prop where
  | mk {first code idHi idLo : UInt8} {token optionBytes payload payloadBytes : List UInt8}
      {options : List WireOption}
      (version : first.toNat / 64 = 1)
      (announced : first.toNat % 16 = token.length)
      (short : token.length ≤ maxTokenLength)
      (optionsField : OptionsBytes options optionBytes)
      (payloadField : PayloadBytes payload payloadBytes) :
      MessageBytes
        { type := first.toNat / 16 % 4
          code := code
          messageId := idHi.toNat * 256 + idLo.toNat
          token := token
          options := options
          payload := payload }
        (first :: code :: idHi :: idLo :: (token ++ (optionBytes ++ payloadBytes)))

/-! ## Reading one option off a byte list -/

def decodeField (nibble : Nat) (bytes : List UInt8) : Option (Nat × List UInt8) :=
  if nibble < 13 then some (nibble, bytes)
  else if nibble = 13 then
    match bytes with
    | b :: rest => some (13 + b.toNat, rest)
    | [] => none
  else if nibble = 14 then
    match bytes with
    | hi :: lo :: rest => some (269 + (hi.toNat * 256 + lo.toNat), rest)
    | _ => none
  else none

def decodeOption : List UInt8 → Option (WireOption × List UInt8)
  | [] => none
  | head :: rest =>
      match decodeField (head.toNat / 16) rest with
      | none => none
      | some (delta, rest) =>
          match decodeField (head.toNat % 16) rest with
          | none => none
          | some (length, rest) =>
              if length ≤ rest.length then some (⟨delta, rest.take length⟩, rest.drop length)
              else none

theorem decodeField_complete (field : FieldBytes nibble ext v) (rest : List UInt8) :
    decodeField nibble (ext ++ rest) = some (v, rest) := by
  cases field with
  | short small => simp [decodeField, small]
  | byte b => simp [decodeField]
  | word hi lo => simp [decodeField]

theorem decodeField_sound (h : decodeField nibble bytes = some (v, rest)) :
    ∃ ext, bytes = ext ++ rest ∧ FieldBytes nibble ext v := by
  unfold decodeField at h
  split at h
  · next small =>
      obtain ⟨rfl, rfl⟩ := by simpa using h
      exact ⟨[], rfl, .short small⟩
  · split at h
    · next is13 =>
        subst is13
        cases bytes with
        | nil => simp at h
        | cons b tail =>
            obtain ⟨rfl, rfl⟩ := by simpa using h
            exact ⟨[b], rfl, .byte b⟩
    · split at h
      · next is14 =>
          subst is14
          match bytes, h with
          | hi :: lo :: tail, h =>
              obtain ⟨rfl, rfl⟩ := by simpa using h
              exact ⟨[hi, lo], rfl, .word hi lo⟩
      · simp at h

theorem decodeOption_complete (option : OptionBytes o bytes) (rest : List UInt8) :
    decodeOption (bytes ++ rest) = some (o, rest) := by
  cases option with
  | @mk head deltaExt lengthExt value delta deltaField lengthField =>
      simp only [List.cons_append, List.append_assoc, decodeOption]
      simp [decodeField_complete deltaField, decodeField_complete lengthField]

theorem decodeOption_sound (h : decodeOption bytes = some (o, rest)) :
    ∃ used, bytes = used ++ rest ∧ OptionBytes o used := by
  cases bytes with
  | nil => simp [decodeOption] at h
  | cons head tail =>
      simp only [decodeOption] at h
      split at h
      · simp at h
      · next delta afterDelta hdelta =>
          split at h
          · simp at h
          · next length afterLength hlength =>
              split at h
              · next fits =>
                  obtain ⟨rfl, rfl⟩ := by simpa using h
                  obtain ⟨deltaExt, rfl, deltaField⟩ := decodeField_sound hdelta
                  obtain ⟨lengthExt, rfl, lengthField⟩ := decodeField_sound hlength
                  have long : (afterLength.take length).length = length := by simpa using fits
                  refine ⟨head :: (deltaExt ++ (lengthExt ++ afterLength.take length)), ?_, ?_⟩
                  · simp [List.append_assoc]
                  · exact .mk deltaField (by rwa [long])
              · simp at h

theorem decodeOption_marker (rest : List UInt8) : decodeOption (0xFF :: rest) = none := by
  simp [decodeOption, decodeField]

theorem OptionBytes.length_pos (option : OptionBytes o bytes) : 0 < bytes.length := by
  cases option
  simp

/-- A byte list splits into options and an end in at most one way. -/
def Ends (bytes : List UInt8) : Prop := bytes = [] ∨ bytes.head? = some 0xFF

theorem PayloadBytes.ends (field : PayloadBytes payload bytes) : Ends bytes := by
  cases field with
  | absent => exact .inl rfl
  | marked => exact .inr rfl

theorem decodeOption_of_ends (h : Ends bytes) : decodeOption bytes = none := by
  rcases h with rfl | h
  · rfl
  · cases bytes with
    | nil => simp at h
    | cons b rest =>
        obtain rfl : b = 0xFF := by simpa using h
        exact decodeOption_marker rest

end Grammar

/-! ## The parser accepts exactly the grammar -/

open Grammar

/-- The option loop stands before `rest`: the pointer and the size it keeps agree
    with the bytes that are left. -/
theorem extendedLength_spec (pre rest : List UInt8) (nibble : Nat) (small : nibble < 15) :
    extendedLength (pre ++ rest) nibble pre.length rest.length =
      .ok (match decodeField nibble rest with
        | none => .error .invalidFormat
        | some (length, tail) => .ok (length, rest.length - tail.length)) := by
  unfold extendedLength decodeField
  by_cases is13 : nibble = 13
  · subst is13
    cases rest with
    | nil => simp
    | cons b tail => simp [load_append]
  · by_cases is14 : nibble = 14
    · subst is14
      match rest with
      | [] => simp
      | [b] => simp
      | hi :: lo :: tail =>
          simp [load, show ¬ tail.length + 1 + 1 < 2 by omega]
          omega
    · have short : nibble < 13 := by omega
      simp [is13, is14, short]

/-- The loop never looks at the extended delta, only steps over it. -/
theorem skipExtendedDelta_spec (rest : List UInt8) (nibble : Nat) (small : nibble < 15) :
    skipExtendedDelta nibble rest.length =
      match decodeField nibble rest with
      | none => .error .invalidFormat
      | some (_, tail) => .ok (rest.length - tail.length) := by
  unfold skipExtendedDelta decodeField
  by_cases is13 : nibble = 13
  · subst is13
    cases rest <;> simp
  · by_cases is14 : nibble = 14
    · subst is14
      match rest with
      | [] => simp
      | [b] => simp
      | hi :: lo :: tail =>
          simp [show ¬ tail.length + 1 + 1 < 2 by omega]
          omega
    · have short : nibble < 13 := by omega
      simp [is13, is14, short]

theorem decodeField_large (nibble : Nat) (large : 15 ≤ nibble) (bytes : List UInt8) :
    decodeField nibble bytes = none := by
  simp [decodeField, show ¬ nibble < 13 by omega, show nibble ≠ 13 by omega,
    show nibble ≠ 14 by omega]

theorem decodeOption_reserved {head : UInt8} {rest : List UInt8}
    (h : head.toNat / 16 = 15 ∨ head.toNat % 16 = 15) : decodeOption (head :: rest) = none := by
  rcases h with h | h
  · simp [decodeOption, h, decodeField_large]
  · simp only [decodeOption, h]
    split
    · rfl
    · simp [decodeField_large]

theorem scanOption_spec (pre : List UInt8) (head : UInt8) (rest : List UInt8) :
    scanOption (pre ++ head :: rest) head pre.length (rest.length + 1) =
      .ok (match decodeOption (head :: rest) with
        | none => .error .invalidFormat
        | some (_, tail) => .ok (pre.length + (rest.length + 1 - tail.length), tail.length)) := by
  have below := head.toNat_lt
  by_cases reserved : head.toNat / 16 = 15 ∨ head.toNat % 16 = 15
  · simp [scanOption, reserved, decodeOption_reserved reserved]
  · have deltaSmall : head.toNat / 16 < 15 := by omega
    have lengthSmall : head.toNat % 16 < 15 := by omega
    simp only [scanOption, Bytes.high_nibble, Bytes.low_nibble, reserved, if_false,
      Nat.add_sub_cancel, skipExtendedDelta_spec rest _ deltaSmall, decodeOption]
    cases hdelta : decodeField (head.toNat / 16) rest with
    | none => rfl
    | some found =>
        obtain ⟨delta, afterDelta⟩ := found
        obtain ⟨deltaExt, rfl, -⟩ := decodeField_sound hdelta
        have place : pre.length + 1 + ((deltaExt ++ afterDelta).length - afterDelta.length) =
            (pre ++ head :: deltaExt).length := by simp; omega
        have left : (deltaExt ++ afterDelta).length -
            ((deltaExt ++ afterDelta).length - afterDelta.length) = afterDelta.length := by
          simp
        have split : pre ++ head :: (deltaExt ++ afterDelta) = (pre ++ head :: deltaExt) ++ afterDelta := by
          simp
        simp only [place, left, split, extendedLength_spec _ _ _ lengthSmall, ok_bind]
        cases hlength : decodeField (head.toNat % 16) afterDelta with
        | none => rfl
        | some found =>
            obtain ⟨length, afterLength⟩ := found
            obtain ⟨lengthExt, rfl, -⟩ := decodeField_sound hlength
            have size : (lengthExt ++ afterLength).length -
                ((lengthExt ++ afterLength).length - afterLength.length) = afterLength.length := by
              simp
            simp only [size]
            by_cases fits : length ≤ afterLength.length
            · simp only [show ¬ afterLength.length < length by omega, if_false, fits, if_true]
              simp only [List.length_append, List.length_cons, List.length_drop, pure_ok]
              congr 3
              omega
            · simp [fits, show afterLength.length < length by omega]

theorem scanOptions_ends {tail : List UInt8} (ends : Ends tail) (pre : List UInt8) (fuel : Nat) :
    scanOptions (pre ++ tail) (fuel + 1) pre.length tail.length =
      .ok (.ok (pre.length, tail.length)) := by
  rcases ends with rfl | marker
  · simp [scanOptions]
  · cases tail with
    | nil => simp at marker
    | cons b rest =>
        obtain rfl : b = 0xFF := by simpa using marker
        simp [scanOptions, load_append]

/-- One round of the loop, on bytes that start an option. -/
theorem scanOptions_step {bytes : List UInt8} (start : ¬ Ends bytes) (pre : List UInt8)
    (fuel : Nat) :
    scanOptions (pre ++ bytes) (fuel + 1) pre.length bytes.length =
      match decodeOption bytes with
      | none => .ok (.error .invalidFormat)
      | some (_, rest) =>
          scanOptions (pre ++ bytes) fuel (pre.length + (bytes.length - rest.length))
            rest.length := by
  cases bytes with
  | nil => exact absurd (.inl rfl) start
  | cons head rest =>
      have unmarked : head ≠ 0xFF := fun h => start (.inr (by simp [h]))
      simp only [scanOptions, List.length_cons, Nat.add_eq_zero_iff, one_ne_zero, and_false,
        if_false, load_append, ok_bind, unmarked, scanOption_spec]
      cases decodeOption (head :: rest) <;> rfl

theorem scanOptions_complete (field : OptionsBytes options bytes) {tail : List UInt8}
    (ends : Ends tail) (pre : List UInt8) (fuel : Nat) (enough : (bytes ++ tail).length < fuel) :
    scanOptions (pre ++ (bytes ++ tail)) fuel pre.length (bytes ++ tail).length =
      .ok (.ok (pre.length + bytes.length, tail.length)) := by
  induction field generalizing pre fuel with
  | nil =>
      obtain ⟨fuel, rfl⟩ : ∃ k, fuel = k + 1 := ⟨fuel - 1, by omega⟩
      simpa using scanOptions_ends ends pre fuel
  | @cons option used options rest first others ih =>
      obtain ⟨fuel, rfl⟩ : ∃ k, fuel = k + 1 := ⟨fuel - 1, by omega⟩
      have decoded := decodeOption_complete first (rest ++ tail)
      have start : ¬ Ends (used ++ rest ++ tail) := by
        intro h
        rw [List.append_assoc] at h
        rw [decodeOption_of_ends h] at decoded
        simp at decoded
      have consumed := first.length_pos
      simp only [List.length_append] at enough
      rw [scanOptions_step start, List.append_assoc, decoded]
      have place : pre.length + ((used ++ (rest ++ tail)).length - (rest ++ tail).length) =
          (pre ++ used).length := by simp
      simp only [place]
      have next := ih (pre ++ used) fuel (by simp only [List.length_append]; omega)
      simpa [List.append_assoc, Nat.add_assoc] using next

theorem scanOptions_sound (pre rest : List UInt8) (fuel : Nat) (enough : rest.length < fuel) :
    scanOptions (pre ++ rest) fuel pre.length rest.length = .ok (.error .invalidFormat) ∨
      ∃ options bytes tail, rest = bytes ++ tail ∧ OptionsBytes options bytes ∧ Ends tail := by
  induction fuel generalizing pre rest with
  | zero => omega
  | succ fuel ih =>
      by_cases ends : Ends rest
      · exact .inr ⟨[], [], rest, rfl, .nil, ends⟩
      · rw [scanOptions_step ends]
        cases decoded : decodeOption rest with
        | none => exact .inl rfl
        | some found =>
            obtain ⟨option, after⟩ := found
            obtain ⟨used, rfl, first⟩ := decodeOption_sound decoded
            have consumed := first.length_pos
            simp only [List.length_append] at enough
            have place : pre.length + ((used ++ after).length - after.length) =
                (pre ++ used).length := by simp
            simp only [place]
            rw [← List.append_assoc]
            refine (ih (pre ++ used) after (by omega)).imp id ?_
            rintro ⟨options, bytes, tail, rfl, others, ends⟩
            exact ⟨option :: options, used ++ bytes, tail, by simp, .cons first others, ends⟩

/-- Past the header checks the parser is its option loop and what follows it. -/
theorem createFromDatagram_scans (first code idHi idLo : UInt8) (token rest : List UInt8)
    (version : first.toNat / 64 = 1) (announced : first.toNat % 16 = token.length)
    (short : token.length ≤ maxTokenLength) :
    createFromDatagram (first :: code :: idHi :: idLo :: (token ++ rest)) = (do
      match ← scanOptions ((first :: code :: idHi :: idLo :: token) ++ rest)
        (((first :: code :: idHi :: idLo :: token) ++ rest).length + 1)
        (first :: code :: idHi :: idLo :: token).length rest.length with
      | .error e => return .error e
      | .ok (data, dataSize) =>
          locatePayload (first :: code :: idHi :: idLo :: (token ++ rest)) data dataSize) := by
  let pre := first :: code :: idHi :: idLo :: token
  have place : 4 + token.length = pre.length := by simp [pre]; omega
  have long : ¬ (pre ++ rest).length < messageMinSize := by
    simp [pre, messageMinSize]
  have tokenFits : ¬ (token.length > maxTokenLength ∨ (pre ++ rest).length < pre.length) := by
    simp only [List.length_append]
    omega
  have left : (pre ++ rest).length - pre.length = rest.length := by simp
  have firstByte : load (pre ++ rest) 0 = .ok first := rfl
  change createFromDatagram (pre ++ rest) = _
  simp only [createFromDatagram, long, if_false, firstByte, ok_bind, Bytes.top_bits, version,
    ne_eq, not_true, Bytes.low_nibble, announced, place, tokenFits, left]
  rfl

theorem locatePayload_absent (datagram : List UInt8) (data : Nat) :
    locatePayload datagram data 0 =
      .ok (.ok { data := datagram, payloadOffset := datagram.length, payloadSize := 0 }) := rfl

theorem locatePayload_marked (pre payload : List UInt8) :
    locatePayload (pre ++ 0xFF :: payload) pre.length (payload.length + 1) =
      .ok (if payload.length = 0 then .error .invalidFormat
        else .ok
          { data := pre ++ 0xFF :: payload
            payloadOffset := (pre ++ 0xFF :: payload).length - payload.length
            payloadSize := payload.length }) := by
  simp only [locatePayload, Nat.add_eq_zero_iff, one_ne_zero, and_false, if_false, load_append,
    ok_bind]
  by_cases empty : payload.length = 0 <;> simp [empty]

/-- A datagram of the format is accepted, and the payload found where it is. -/
theorem createFromDatagram_complete (message : MessageBytes wire datagram) :
    createFromDatagram datagram =
      .ok (.ok
        { data := datagram
          payloadOffset := datagram.length - wire.payload.length
          payloadSize := wire.payload.length }) := by
  cases message with
  | @mk first code idHi idLo token optionBytes payload payloadBytes options version announced
      short optionsField payloadField =>
      have scanned := scanOptions_complete optionsField payloadField.ends
        (first :: code :: idHi :: idLo :: token)
        (((first :: code :: idHi :: idLo :: token) ++ (optionBytes ++ payloadBytes)).length + 1)
        (by simp only [List.length_append]; omega)
      rw [createFromDatagram_scans first code idHi idLo token _ version announced short, scanned]
      cases payloadField with
      | absent => simp [locatePayload_absent]
      | marked nonempty =>
          have size : payload.length ≠ 0 := by simpa using nonempty
          have found := locatePayload_marked ((first :: code :: idHi :: idLo :: token) ++ optionBytes)
            payload
          rw [List.length_append] at found
          simpa [size, List.append_assoc] using found

theorem createFromDatagram_sound (datagram : List UInt8) :
    (∃ e, createFromDatagram datagram = .ok (.error e)) ∨ ∃ wire, MessageBytes wire datagram := by
  by_cases long : datagram.length < messageMinSize
  · exact .inl ⟨.invalidFormat, by simp [createFromDatagram, long]⟩
  obtain ⟨first, code, idHi, idLo, body, rfl⟩ :
      ∃ first code idHi idLo body, datagram = first :: code :: idHi :: idLo :: body := by
    match datagram, long with
    | [], long | [_], long | [_, _], long | [_, _, _], long => simp [messageMinSize] at long
    | first :: code :: idHi :: idLo :: body, _ => exact ⟨first, code, idHi, idLo, body, rfl⟩
  have firstByte : load (first :: code :: idHi :: idLo :: body) 0 = .ok first := rfl
  by_cases version : first.toNat / 64 = 1
  swap
  · refine .inl ⟨.coapUnsupportedVersion, ?_⟩
    simp only [createFromDatagram, long, if_false, firstByte, ok_bind, Bytes.top_bits]
    simp [version]
  by_cases tokenFits : first.toNat % 16 > maxTokenLength ∨
      (first :: code :: idHi :: idLo :: body).length < 4 + first.toNat % 16
  · refine .inl ⟨.invalidFormat, ?_⟩
    simp only [createFromDatagram, long, if_false, firstByte, ok_bind, Bytes.top_bits,
      Bytes.low_nibble, version, tokenFits]
    rfl
  · rw [not_or, not_lt, not_lt] at tokenFits
    obtain ⟨short, inside⟩ := tokenFits
    have enough : first.toNat % 16 ≤ body.length := by
      simp only [List.length_cons] at inside
      omega
    obtain ⟨token, rest, rfl, announced⟩ :
        ∃ token rest, body = token ++ rest ∧ first.toNat % 16 = token.length :=
      ⟨body.take (first.toNat % 16), body.drop (first.toNat % 16), by simp, by simpa using enough⟩
    rw [announced] at short
    have parsed := createFromDatagram_scans first code idHi idLo token rest version announced short
    rcases scanOptions_sound (first :: code :: idHi :: idLo :: token) rest
        (((first :: code :: idHi :: idLo :: token) ++ rest).length + 1)
        (by simp only [List.length_append]; omega) with failed | ⟨options, bytes, tail, rfl, field, ends⟩
    · rw [failed] at parsed
      exact .inl ⟨.invalidFormat, parsed⟩
    · rcases ends with rfl | marker
      · exact .inr ⟨_, .mk version announced short field .absent⟩
      · obtain ⟨payload, rfl⟩ : ∃ payload, tail = 0xFF :: payload := by
          cases tail with
          | nil => simp at marker
          | cons b payload => exact ⟨payload, by simpa using marker⟩
        by_cases nonempty : payload = []
        · subst nonempty
          have scanned := scanOptions_complete field (.inr marker)
            (first :: code :: idHi :: idLo :: token)
            (((first :: code :: idHi :: idLo :: token) ++ (bytes ++ [0xFF])).length + 1)
            (by simp only [List.length_append]; omega)
          have found := locatePayload_marked ((first :: code :: idHi :: idLo :: token) ++ bytes) []
          rw [scanned] at parsed
          refine .inl ⟨.invalidFormat, parsed.trans ?_⟩
          rw [List.length_append] at found
          simpa [List.append_assoc] using found
        · exact .inr ⟨_, .mk version announced short field (.marked nonempty)⟩

/-- What is accepted is in the grammar, and the message that is made of it is known. -/
theorem wire_of_accepted {message : Message} (accepted : createFromDatagram datagram = .ok (.ok message)) :
    ∃ wire, MessageBytes wire datagram ∧
      message = ⟨datagram, datagram.length - wire.payload.length, wire.payload.length⟩ := by
  rcases createFromDatagram_sound datagram with ⟨error, failed⟩ | ⟨wire, wireBytes⟩
  · rw [failed] at accepted
    cases accepted
  · rw [createFromDatagram_complete wireBytes] at accepted
    cases accepted
    exact ⟨wire, wireBytes, rfl⟩

/-- The parser returns on every byte string without leaving it, and succeeds on
    exactly the strings of the grammar. -/
theorem createFromDatagram_accepts_grammar (datagram : List UInt8) :
    ∃ result, createFromDatagram datagram = .ok result ∧
      ((∃ message, result = .ok message) ↔ ∃ wire, MessageBytes wire datagram) := by
  by_cases inGrammar : ∃ wire, MessageBytes wire datagram
  · obtain ⟨wire, message⟩ := inGrammar
    exact ⟨_, createFromDatagram_complete message, fun _ => ⟨wire, message⟩, fun _ => ⟨_, rfl⟩⟩
  · obtain ⟨e, failed⟩ := (createFromDatagram_sound datagram).resolve_right inGrammar
    refine ⟨_, failed, ?_, fun h => absurd h inGrammar⟩
    rintro ⟨message, impossible⟩
    cases impossible

end GoldenGate.Coap
