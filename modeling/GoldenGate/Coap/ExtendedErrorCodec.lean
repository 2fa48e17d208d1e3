import GoldenGate.Coap.ExtendedErrorFields

/-! # Encoding and decoding extended errors

The size, the encoder and the decoder agree on one form of an error, field by field.
-/

namespace GoldenGate.Coap.ExtendedError

open Memory Varint

/-! ## The encoded form -/

/-- A string and the text that it holds: absent, counted, or up to a null. -/
inductive Text : Option ErrorString → Option (List UInt8) → Prop where
  | absent : Text none none
  | counted {text rest : List UInt8} : text ≠ [] → Text (some ⟨text ++ rest, text.length⟩) (some text)
  | terminated {text rest : List UInt8} : text ≠ [] → 0 ∉ text → Text (some ⟨text ++ 0 :: rest, 0⟩) (some text)

def stringField (fieldNumber : Nat) : Option (List UInt8) → List UInt8
  | none => []
  | some text => protobufFieldKey fieldNumber protobufWireTypeLengthDelimited :: (group text.length ++ text)

def codeField (code : Int32) : List UInt8 :=
  protobufFieldKey 2 protobufWireTypeVarint :: group (protobufSignedToZigZag code.toInt64).toNat

def encodedForm (nameSpace : Option (List UInt8)) (code : Int32) (message : Option (List UInt8)) : List UInt8 :=
  stringField 1 nameSpace ++ (codeField code ++ stringField 3 message)

theorem strlen_terminated {text : List UInt8} (noNull : 0 ∉ text) (rest : List UInt8) :
    strlen (text ++ 0 :: rest) = .ok text.length := by
  have found : (text ++ 0 :: rest).idxOf? 0 = some text.length := by
    induction text with
    | nil => rfl
    | cons c text ih =>
        rw [List.mem_cons, not_or] at noNull
        rw [List.cons_append, List.idxOf?_cons, ih noNull.2]
        simp [Ne.symm noNull.1]
  rw [strlen, found]

theorem Text.ne_nil {string : Option ErrorString} {text : List UInt8} (isText : Text string (some text)) : text ≠ [] := by
  cases isText with
  | counted some_ => exact some_
  | terminated some_ _ => exact some_

/-- The length and the bytes of a text. -/
theorem Text.reads {string : ErrorString} {text : List UInt8} (isText : Text (some string) (some text)) :
    string.length = .ok text.length ∧ loadBytes string.memory 0 text.length = .ok text := by
  cases isText with
  | @counted _ rest some_ =>
      have positive := List.length_pos_iff.mpr some_
      constructor
      · rw [ErrorString.length, if_pos (show text.length ≠ 0 by omega)]
      · rw [loadBytes, if_pos (by rw [List.length_append]; omega), List.drop_zero, List.take_left]
  | @terminated _ rest _ noNull =>
      constructor
      · rw [ErrorString.length, if_neg (fun h => h rfl), strlen_terminated noNull]
      · rw [loadBytes, if_pos (by rw [List.length_append]; omega), List.drop_zero, List.take_left]

theorem protobufVarintSize_length (value : Nat) : protobufVarintSize value 1 = (group value).length := by
  have size := protobufVarintSize_eq value 1
  omega

theorem addEncodedSize_spec {string : Option ErrorString} {text : Option (List UInt8)} (isText : Text string text)
    {size : Nat} (fieldNumber : Nat) (small : size + (stringField fieldNumber text).length < 2 ^ 64) :
    addEncodedSize size string = .ok (size + (stringField fieldNumber text).length) := by
  cases string with
  | none =>
      cases isText with
      | absent => rfl
  | some string =>
      cases text with
      | none => cases isText
      | some text =>
          have total : (stringField fieldNumber (some text)).length = 1 + (group text.length).length + text.length := by
            rw [stringField, List.length_cons, List.length_append]
            omega
          rw [addEncodedSize, isText.reads.1, ok_bind, protobufVarintSize_length, ← total, Nat.mod_eq_of_lt small]
          rfl

/-! ## The encoder -/

/-- So much of the buffer is written, and the rest is as it was. -/
structure Wrote (encoding : Encoding) (original done : List UInt8) : Prop where
  buffer : encoding.buffer = done ++ original.drop done.length
  position : encoding.position = done.length

section Encoder

variable {encoding : Encoding} {original done : List UInt8}

theorem Wrote.put (wrote : Wrote encoding original done) {bytes : List UInt8}
    (fits : done.length + bytes.length ≤ original.length) :
    ∃ next, encoding.put bytes = .ok next ∧ Wrote next original (done ++ bytes) := by
  have inside : done.length + bytes.length ≤ (done ++ original.drop done.length).length := by
    rw [List.length_append, List.length_drop]
    omega
  have front : (done ++ original.drop done.length).take done.length = done := List.take_left
  have back : (done ++ original.drop done.length).drop (done.length + bytes.length) =
      original.drop (done ++ bytes).length := by
    rw [← List.drop_drop, List.drop_left, List.drop_drop, List.length_append]
  have stores : store encoding.buffer encoding.position bytes = .ok (done ++ bytes ++ original.drop (done ++ bytes).length) := by
    rw [store, wrote.buffer, wrote.position, if_pos inside, front, back]
  have moved : encoding.position + bytes.length = (done ++ bytes).length := by rw [wrote.position, List.length_append]
  exact ⟨_, by rw [Encoding.put, stores]; rfl, rfl, moved⟩

theorem Wrote.putString (wrote : Wrote encoding original done) {string : Option ErrorString} {text : Option (List UInt8)}
    (isText : Text string text) (fieldNumber : Nat)
    (fits : done.length + (stringField fieldNumber text).length ≤ original.length) :
    ∃ next, encoding.putString fieldNumber string = .ok next ∧
      Wrote next original (done ++ stringField fieldNumber text) := by
  cases string with
  | none =>
      cases isText with
      | absent => exact ⟨encoding, rfl, by rw [stringField, List.append_nil]; exact wrote⟩
  | some string =>
      cases text with
      | none => cases isText
      | some text =>
          obtain ⟨length, loads⟩ := isText.reads
          rw [stringField, List.length_cons, List.length_append] at fits
          obtain ⟨keyed, puts, wroteKey⟩ := @Wrote.put _ _ _ wrote
            [protobufFieldKey fieldNumber protobufWireTypeLengthDelimited] (by rw [List.length_singleton]; omega)
          obtain ⟨counted, puts', wroteCount⟩ := @Wrote.put _ _ _ wroteKey (group text.length)
            (by rw [List.length_append, List.length_singleton]; omega)
          obtain ⟨next, puts'', wroteText⟩ := @Wrote.put _ _ _ wroteCount text
            (by rw [List.length_append, List.length_append, List.length_singleton]; omega)
          refine ⟨next, ?_, ?_⟩
          · rw [Encoding.putString, puts, ok_bind, length, ok_bind, encodeProtobufVarint_eq, puts', ok_bind, loads,
              ok_bind, puts'']
          · rw [List.append_assoc, List.append_assoc] at wroteText
            exact wroteText

theorem Wrote.putCode (wrote : Wrote encoding original done) (code : Int32)
    (fits : done.length + (codeField code).length ≤ original.length) :
    ∃ keyed next, encoding.put [protobufFieldKey 2 protobufWireTypeVarint] = .ok keyed ∧
      keyed.put (encodeProtobufVarint (protobufSignedToZigZag code.toInt64).toNat) = .ok next ∧
        Wrote next original (done ++ codeField code) := by
  rw [codeField, List.length_cons] at fits
  obtain ⟨keyed, puts, wroteKey⟩ := @Wrote.put _ _ _ wrote [protobufFieldKey 2 protobufWireTypeVarint]
    (by rw [List.length_singleton]; omega)
  obtain ⟨next, puts', wroteCode⟩ := @Wrote.put _ _ _ wroteKey (group (protobufSignedToZigZag code.toInt64).toNat)
    (by rw [List.length_append, List.length_singleton]; omega)
  rw [List.append_assoc] at wroteCode
  exact ⟨keyed, next, puts, by rw [encodeProtobufVarint_eq, puts'], wroteCode⟩

/-- The encoder writes the encoded form, and its size is the one that is computed. -/
theorem encode_spec (self : CoapExtendedError) {nameSpace message : Option (List UInt8)}
    (isNameSpace : Text self.nameSpace nameSpace) (isMessage : Text self.message message) {buffer : List UInt8}
    (room : (encodedForm nameSpace self.code message).length ≤ buffer.length) (small : buffer.length < 2 ^ 64) :
    self.getEncodedSize = .ok (encodedForm nameSpace self.code message).length ∧
      ∃ encoding, self.encode buffer = .ok encoding ∧ Wrote encoding buffer (encodedForm nameSpace self.code message) := by
  have total : (encodedForm nameSpace self.code message).length =
      (codeField self.code).length + (stringField 1 nameSpace).length + (stringField 3 message).length := by
    rw [encodedForm, List.length_append, List.length_append]
    omega
  have codeSize : 1 + protobufVarintSize (protobufSignedToZigZag self.code.toInt64).toNat 1 = (codeField self.code).length := by
    rw [codeField, List.length_cons, protobufVarintSize_length, Nat.add_comm]
  constructor
  · rw [CoapExtendedError.getEncodedSize, codeSize, addEncodedSize_spec isNameSpace 1 (by omega), ok_bind,
      addEncodedSize_spec isMessage 3 (by omega), ← total]
  · have fresh : Wrote ⟨buffer, 0⟩ buffer [] := ⟨rfl, rfl⟩
    obtain ⟨first, puts, wroteFirst⟩ := fresh.putString isNameSpace 1 (by rw [List.length_nil]; omega)
    obtain ⟨keyed, second, puts', puts'', wroteSecond⟩ := wroteFirst.putCode self.code
      (by rw [List.length_append, List.length_nil]; omega)
    obtain ⟨last, puts''', wroteLast⟩ := wroteSecond.putString isMessage 3
      (by rw [List.length_append, List.length_append, List.length_nil]; omega)
    rw [List.nil_append, List.append_assoc] at wroteLast
    exact ⟨last, by rw [CoapExtendedError.encode, puts, ok_bind, puts', ok_bind, puts'', ok_bind, puts'''], wroteLast⟩

end Encoder

/-! ## The decoder on the encoded form -/

theorem isVarint_group {n : Nat} (small : n < 2 ^ 64) : IsVarint (group n) :=
  ⟨complete_group n, @length_group_le 9 n (by omega)⟩

section Decoder

variable {payload others : List UInt8} {position fuel : Nat}

theorem decodeFields_text {fieldNumber : Nat} (isNumber : fieldNumber = 1 ∨ fieldNumber = 3) (small : payload.length < 2 ^ 64)
    {text : List UInt8} (place : payload.drop position = stringField fieldNumber (some text) ++ others)
    (self : CoapExtendedError) :
    decodeFields payload (fuel + 1) position (stringField fieldNumber (some text) ++ others).length self =
      decodeFields payload fuel (position + (stringField fieldNumber (some text)).length) others.length
        (self.setString fieldNumber (some ⟨text ++ others, text.length⟩)) := by
  obtain ⟨key, isKey⟩ : ∃ key, protobufFieldKey fieldNumber protobufWireTypeLengthDelimited = key := ⟨_, rfl⟩
  have number : key.toNat >>> 3 = fieldNumber := by rcases isNumber with rfl | rfl <;> subst isKey <;> rfl
  have wire : key.toNat &&& 7 = 2 := by rcases isNumber with rfl | rfl <;> subst isKey <;> rfl
  have isString : IsString key := by rcases isNumber with rfl | rfl; exacts [.inl number, .inr number]
  have form : stringField fieldNumber (some text) ++ others = key :: (group text.length ++ (text ++ others)) := by
    rw [stringField, isKey, List.cons_append, List.append_assoc]
  have length : (stringField fieldNumber (some text)).length = 1 + (group text.length ++ text).length := by
    rw [stringField, List.length_cons, Nat.add_comm]
  rw [form] at place ⊢
  have stands : StandsAt payload position key (group text.length ++ (text ++ others)) := ⟨place, small⟩
  have bound := stands.rest_lt
  simp only [List.length_append] at bound
  have announced : Varint.number (group text.length) % 2 ^ 64 = text.length := by
    rw [number_group, Nat.mod_eq_of_lt (by omega)]
  have decodes := decodeString_field self stands rfl wire (isVarint_group (by omega)) announced fieldNumber
  have two : (key :: (group text.length ++ (text ++ others))).length ≥ 2 := by
    have some_ := (complete_group text.length).length_pos
    simp only [List.length_cons, List.length_append]
    omega
  have round : decodeField payload position (key :: (group text.length ++ (text ++ others))).length self =
      .ok (.ok (position + 1 + (group text.length ++ text).length, others.length,
        self.setString fieldNumber (some ⟨text ++ others, text.length⟩))) := by
    rw [decodeField, stands.load.1, ok_bind]
    refine (if_pos isString).trans ?_
    rw [number]
    exact decodes
  rw [decodeFields, if_pos two, round, ok_bind, length, ← Nat.add_assoc]

theorem decodeFields_code (small : payload.length < 2 ^ 64) {code : Int32}
    (place : payload.drop position = codeField code ++ others) (self : CoapExtendedError) :
    decodeFields payload (fuel + 1) position (codeField code ++ others).length self =
      decodeFields payload fuel (position + (codeField code).length) others.length { self with code := code } := by
  obtain ⟨zigzag, isZigzag⟩ : ∃ zigzag, protobufSignedToZigZag code.toInt64 = zigzag := ⟨_, rfl⟩
  obtain ⟨key, isKey⟩ : ∃ key, protobufFieldKey 2 protobufWireTypeVarint = key := ⟨_, rfl⟩
  have wire : wireTypeOf key = 0 := by subst isKey; rfl
  have isCode : IsCode key := by subst isKey; rfl
  have notString : ¬ IsString key := by subst isKey; decide
  have form : codeField code ++ others = key :: (group zigzag.toNat ++ others) := by
    rw [codeField, isKey, isZigzag, List.cons_append]
  have length : (codeField code).length = 1 + (group zigzag.toNat).length := by
    rw [codeField, isZigzag, List.length_cons, Nat.add_comm]
  rw [form] at place ⊢
  have stands : StandsAt payload position key (group zigzag.toNat ++ others) := ⟨place, small⟩
  have read : (protobufSignedFromZigZag (UInt64.ofNat (number (group zigzag.toNat) % 2 ^ 64))).toInt32 = code := by
    have same : UInt64.ofNat zigzag.toNat = zigzag := UInt64.ofNat_toNat
    rw [number_group, Nat.mod_eq_of_lt zigzag.toNat_lt, same, ← isZigzag, protobufSignedFromZigZag_toZigZag,
      Int32.toInt32_toInt64]
  have decodes := decodeCode_field self stands rfl wire (isVarint_group zigzag.toNat_lt)
  rw [read] at decodes
  have two : (key :: (group zigzag.toNat ++ others)).length ≥ 2 := by
    have some_ := (complete_group zigzag.toNat).length_pos
    simp only [List.length_cons, List.length_append]
    omega
  have round : decodeField payload position (key :: (group zigzag.toNat ++ others)).length self =
      .ok (.ok (position + 1 + (group zigzag.toNat).length, others.length, { self with code := code })) := by
    rw [decodeField, stands.load.1, ok_bind]
    exact (if_neg notString).trans ((if_pos isCode).trans decodes)
  rw [decodeFields, if_pos two, round, ok_bind, length, ← Nat.add_assoc]

/-- A text that may be absent. -/
theorem decodeFields_string {fieldNumber : Nat} (isNumber : fieldNumber = 1 ∨ fieldNumber = 3)
    (small : payload.length < 2 ^ 64) {text : Option (List UInt8)} (some_ : ∀ t, text = some t → t ≠ [])
    (place : payload.drop position = stringField fieldNumber text ++ others)
    (enough : (stringField fieldNumber text ++ others).length < fuel) {self : CoapExtendedError}
    (unset : self.setString fieldNumber none = self) :
    ∃ string fuel', Text string text ∧ others.length < fuel' ∧
      payload.drop (position + (stringField fieldNumber text).length) = others ∧
        decodeFields payload fuel position (stringField fieldNumber text ++ others).length self =
          decodeFields payload fuel' (position + (stringField fieldNumber text).length) others.length
            (self.setString fieldNumber string) := by
  have behind : payload.drop (position + (stringField fieldNumber text).length) = others := by
    rw [← List.drop_drop, place, List.drop_left]
  cases text with
  | none => exact ⟨none, fuel, .absent, enough, behind, by rw [unset]; rfl⟩
  | some text =>
      obtain ⟨fuel, rfl⟩ : ∃ n, fuel = n + 1 := ⟨fuel - 1, by omega⟩
      refine ⟨_, fuel, .counted (some_ text rfl), ?_, behind, decodeFields_text isNumber small place self⟩
      rw [stringField, List.cons_append, List.length_cons, List.length_append] at enough
      omega

/-- The encoded form of an error is decoded to it. -/
theorem decode_encodedForm {nameSpace message : Option (List UInt8)} (code : Int32)
    (someNameSpace : ∀ t, nameSpace = some t → t ≠ []) (someMessage : ∀ t, message = some t → t ≠ [])
    (small : (encodedForm nameSpace code message).length < 2 ^ 64) :
    ∃ decoded, CoapExtendedError.decode (encodedForm nameSpace code message) = .ok (.ok decoded) ∧
      Text decoded.nameSpace nameSpace ∧ decoded.code = code ∧ Text decoded.message message := by
  obtain ⟨payload, isPayload⟩ : ∃ payload, encodedForm nameSpace code message = payload := ⟨_, rfl⟩
  rw [isPayload] at small ⊢
  have start : payload.drop 0 = stringField 1 nameSpace ++ (codeField code ++ stringField 3 message) := isPayload.symm
  have length : payload.length = (stringField 1 nameSpace ++ (codeField code ++ stringField 3 message)).length :=
    congrArg List.length start
  obtain ⟨first, fuel, isNameSpace, enough, place, decodes⟩ := decodeFields_string (.inl rfl) small someNameSpace start
    (show _ < payload.length + 1 by omega) (show CoapExtendedError.setString ⟨none, 0, none⟩ 1 none = _ from rfl)
  obtain ⟨fuel, rfl⟩ : ∃ n, fuel = n + 1 := ⟨fuel - 1, by omega⟩
  have decodesCode := @decodeFields_code _ _ _ fuel small code place ⟨first, 0, none⟩
  have behind : payload.drop (0 + (stringField 1 nameSpace).length + (codeField code).length) = stringField 3 message ++ [] := by
    rw [← List.drop_drop, place, List.drop_left, List.append_nil]
  have enough' : (stringField 3 message ++ []).length < fuel := by
    rw [codeField, List.cons_append, List.length_cons, List.length_append] at enough
    rw [List.append_nil]
    omega
  obtain ⟨last, fuel', isMessage, enough'', -, decodesMessage⟩ := decodeFields_string (.inr rfl) small someMessage behind
    enough' (show CoapExtendedError.setString ⟨first, code, none⟩ 3 none = _ from rfl)
  obtain ⟨fuel', rfl⟩ : ∃ n, fuel' = n + 1 := ⟨fuel' - 1, by omega⟩
  rw [List.append_nil] at decodesMessage
  refine ⟨⟨first, code, last⟩, ?_, isNameSpace, rfl, isMessage⟩
  rw [← length] at decodes
  rw [CoapExtendedError.decode]
  exact (decodes.trans (decodesCode.trans decodesMessage)).trans rfl

end Decoder

/-! ## The codec -/

/-- An error is encoded, into a buffer that has room for it, in as many bytes as are told before,
    and is decoded from them. Decoding any payload comes to an end inside of it, and accepts just
    the sequences of complete fields, unless the payload is made of complete fields and of ones
    whose size is no number of 64 bits: these are not refused, and a part of them is skipped. -/
theorem extended_error_codec_iff {payload : List UInt8} (small : payload.length < 2 ^ 64) :
    (∀ (self : CoapExtendedError) (nameSpace message : Option (List UInt8)) (buffer : List UInt8),
      Text self.nameSpace nameSpace → Text self.message message →
        (encodedForm nameSpace self.code message).length ≤ buffer.length → buffer.length < 2 ^ 64 →
          ∃ size encoding decoded, self.getEncodedSize = .ok size ∧ self.encode buffer = .ok encoding ∧
            encoding.position = size ∧ encoding.buffer.drop size = buffer.drop size ∧
              CoapExtendedError.decode (encoding.buffer.take size) = .ok (.ok decoded) ∧
                Text decoded.nameSpace nameSpace ∧ decoded.code = self.code ∧ Text decoded.message message) ∧
    ∃ outcome, CoapExtendedError.decode payload = .ok outcome ∧
      (((∃ error, outcome = .ok error) ↔ Fields payload) ↔ ¬ Slips payload) := by
  constructor
  · intro self nameSpace message buffer isNameSpace isMessage room addressable
    obtain ⟨size, encoding, encodes, wrote⟩ := encode_spec self isNameSpace isMessage room addressable
    have someNameSpace : ∀ t, nameSpace = some t → t ≠ [] := by
      rintro t rfl
      exact isNameSpace.ne_nil
    have someMessage : ∀ t, message = some t → t ≠ [] := by
      rintro t rfl
      exact isMessage.ne_nil
    obtain ⟨decoded, decodes, same⟩ :=
      decode_encodedForm self.code someNameSpace someMessage (Nat.lt_of_le_of_lt room addressable)
    refine ⟨_, encoding, decoded, size, encodes, wrote.position, ?_, ?_, same⟩
    · rw [wrote.buffer, List.drop_left]
    · rw [wrote.buffer, List.take_left]
      exact decodes
  · obtain ⟨outcome, decodes, accepted⟩ :=
      decodeFields_iff small List.drop_zero (Nat.lt_succ_self payload.length) ⟨none, 0, none⟩
    refine ⟨outcome, decodes, ?_⟩
    constructor
    · intro wellFormed slips
      exact slips.not_fields small (wellFormed.mp (accepted.mpr (.inr slips)))
    · intro noSlips
      exact accepted.trans (or_iff_left noSlips)

theorem extended_error_codec_code_only :
    ∃ outcome, CoapExtendedError.decode [0x10, 0x02] = .ok outcome ∧
      (((∃ error, outcome = .ok error) ↔ Fields [0x10, 0x02]) ↔ ¬ Slips [0x10, 0x02]) :=
  (@extended_error_codec_iff [0x10, 0x02] (by decide)).2

/-- Field 4 announces `2 ^ 64 - 1` bytes in ten, so that nine are skipped; the tenth is taken for
    the key of a field of eight bytes. -/
def slippingPayload : List UInt8 := 0x22 :: (List.replicate 9 0xFF ++ [0x01] ++ List.replicate 8 0)

theorem slips_slippingPayload : Slips slippingPayload := by
  have varint : IsVarint (List.replicate 9 0xFF ++ [0x01]) := by
    refine ⟨?_, by decide⟩
    iterate 9 refine .more (by decide) ?_
    exact .last (by decide)
  have wraps : Wraps 0x22 (List.replicate 9 0xFF ++ [0x01]) := ⟨rfl, by decide, varint, by decide⟩
  have rest : Fields (0x01 :: (List.replicate 8 0 ++ [])) := .cons (.unknown (by decide)) (.word64 rfl) .nil
  exact .last wraps rest

theorem slippingPayload_accepted : ¬ ∀ payload : List UInt8, payload.length < 2 ^ 64 →
    ∃ outcome, CoapExtendedError.decode payload = .ok outcome ∧ ((∃ error, outcome = .ok error) ↔ Fields payload) := by
  intro h
  have small : slippingPayload.length < 2 ^ 64 := by decide
  obtain ⟨outcome, decodes, wellFormed⟩ := h slippingPayload small
  have accepts : CoapExtendedError.decode slippingPayload = .ok (.ok ⟨none, 0, none⟩) := by decide
  obtain rfl : .ok ⟨none, 0, none⟩ = outcome := Except.ok.inj (accepts.symm.trans decodes)
  exact slips_slippingPayload.not_fields small (wellFormed.mp ⟨_, rfl⟩)

end GoldenGate.Coap.ExtendedError
