import GoldenGate.Coap.ExtendedError

/-! # The fields of an extended error

What a payload may be made of, and what the decoder takes for such a payload: a field that is
skipped may announce so many bytes that the sum with its header has no place in a `size_t`.
-/

namespace GoldenGate.Coap.ExtendedError

open Memory Varint

/-- The field number and the wire type of a key of one byte. -/
def fieldNumberOf (key : UInt8) : Nat := key.toNat >>> 3
def wireTypeOf (key : UInt8) : Nat := key.toNat &&& 7

/-- A number of no more than ten bytes, of which 64 bits count. -/
structure IsVarint (bytes : List UInt8) : Prop where
  complete : Complete bytes
  short : bytes.length ≤ 10

/-- What follows a key, by its wire type. -/
inductive Content : Nat → List UInt8 → Prop where
  | varint {bytes : List UInt8} : IsVarint bytes → Content 0 bytes
  | word64 {bytes : List UInt8} : bytes.length = 8 → Content 1 bytes
  | delimited {bytes body : List UInt8} : IsVarint bytes → number bytes % 2 ^ 64 = body.length →
      Content 2 (bytes ++ body)
  | word32 {bytes : List UInt8} : bytes.length = 4 → Content 5 bytes

def IsString (key : UInt8) : Prop :=
  fieldNumberOf key = extendedErrorNamespaceFieldNumber ∨ fieldNumberOf key = extendedErrorMessageFieldNumber

def IsCode (key : UInt8) : Prop := fieldNumberOf key = extendedErrorCodeFieldNumber

instance (key : UInt8) : Decidable (IsString key) := inferInstanceAs (Decidable (_ ∨ _))

instance (key : UInt8) : Decidable (IsCode key) := inferInstanceAs (Decidable (_ = _))

/-- The strings are length-delimited, and the code is a varint. -/
structure Allows (key : UInt8) : Prop where
  string : IsString key → wireTypeOf key = 2
  code : IsCode key → wireTypeOf key = 0

/-- A sequence of complete fields. -/
inductive Fields : List UInt8 → Prop where
  | nil : Fields []
  | cons {key : UInt8} {content others : List UInt8} : Allows key → Content (wireTypeOf key) content →
      Fields others → Fields (key :: (content ++ others))

/-- An unknown field that announces so many bytes that the sum with the bytes that announce it is
    no number of 64 bits. -/
structure Wraps (key : UInt8) (bytes : List UInt8) : Prop where
  delimited : wireTypeOf key = 2
  unknown : ¬ IsString key ∧ ¬ IsCode key
  varint : IsVarint bytes
  large : 2 ^ 64 ≤ bytes.length + number bytes % 2 ^ 64

/-- What is then skipped instead. -/
def wrapped (bytes : List UInt8) : Nat := bytes.length + number bytes % 2 ^ 64 - 2 ^ 64

/-- A sequence of fields of which one or more wrap, and of complete ones. -/
inductive Slips : List UInt8 → Prop where
  | field {key : UInt8} {content others : List UInt8} : Allows key → Content (wireTypeOf key) content →
      Slips others → Slips (key :: (content ++ others))
  | last {key : UInt8} {bytes others : List UInt8} : Wraps key bytes →
      Fields ((bytes ++ others).drop (wrapped bytes)) → Slips (key :: (bytes ++ others))
  | again {key : UInt8} {bytes others : List UInt8} : Wraps key bytes →
      Slips ((bytes ++ others).drop (wrapped bytes)) → Slips (key :: (bytes ++ others))

/-! ## Where a field ends -/

theorem IsVarint.unique {a b x y : List UInt8} (isA : IsVarint a) (isB : IsVarint b) (same : a ++ x = b ++ y) :
    a = b ∧ x = y := isA.complete.unique isB.complete same

theorem Content.unique {wireType : Nat} {a b x y : List UInt8} (isA : Content wireType a) (isB : Content wireType b)
    (same : a ++ x = b ++ y) : a = b ∧ x = y := by
  cases isA with
  | varint isVarint =>
      cases isB with
      | varint isVarint' => exact isVarint.unique isVarint' same
  | word64 eight =>
      cases isB with
      | word64 eight' => exact List.append_inj same (eight.trans eight'.symm)
  | delimited isVarint announced =>
      cases isB with
      | delimited isVarint' announced' =>
          rw [List.append_assoc, List.append_assoc] at same
          obtain ⟨rfl, behind⟩ := isVarint.unique isVarint' same
          obtain ⟨rfl, rfl⟩ := List.append_inj behind (announced.symm.trans announced')
          exact ⟨rfl, rfl⟩
  | word32 four =>
      cases isB with
      | word32 four' => exact List.append_inj same (four.trans four'.symm)

theorem Content.length_pos {wireType : Nat} {content : List UInt8} (isContent : Content wireType content) :
    0 < content.length := by
  cases isContent with
  | varint isVarint => exact isVarint.complete.length_pos
  | word64 eight => omega
  | delimited isVarint _ =>
      have some_ := isVarint.complete.length_pos
      rw [List.length_append]
      omega
  | word32 four => omega

/-- What a key and its wire type leave for the fields behind them. -/
theorem Fields.cons_inv {key : UInt8} {rest : List UInt8} (fields : Fields (key :: rest)) :
    ∃ content others, rest = content ++ others ∧ Allows key ∧ Content (wireTypeOf key) content ∧ Fields others := by
  cases fields with
  | cons allows isContent others => exact ⟨_, _, rfl, allows, isContent, others⟩

theorem Slips.cons_inv {key : UInt8} {rest : List UInt8} (slips : Slips (key :: rest)) :
    (∃ content others, rest = content ++ others ∧ Allows key ∧ Content (wireTypeOf key) content ∧ Slips others) ∨
      ∃ bytes others, rest = bytes ++ others ∧ Wraps key bytes ∧
        (Fields (rest.drop (wrapped bytes)) ∨ Slips (rest.drop (wrapped bytes))) := by
  cases slips with
  | field allows isContent others => exact .inl ⟨_, _, rfl, allows, isContent, others⟩
  | last wraps fields => exact .inr ⟨_, _, rfl, wraps, .inl fields⟩
  | again wraps slips => exact .inr ⟨_, _, rfl, wraps, .inr slips⟩

/-- A field that wraps is not complete. -/
theorem Wraps.not_content {key : UInt8} {bytes content x y : List UInt8} (wraps : Wraps key bytes)
    (isContent : Content (wireTypeOf key) content) (same : bytes ++ x = content ++ y)
    (small : (bytes ++ x).length < 2 ^ 64) : False := by
  rw [wraps.delimited] at isContent
  cases isContent with
  | delimited isVarint announced =>
      have large := wraps.large
      rw [List.append_assoc] at same
      obtain ⟨rfl, rfl⟩ := wraps.varint.unique isVarint same
      rw [announced] at large
      simp only [List.length_append] at small
      omega

theorem Allows.unknown {key : UInt8} (unknown : ¬ IsString key ∧ ¬ IsCode key) : Allows key :=
  ⟨fun h => absurd h unknown.1, fun h => absurd h unknown.2⟩

section Fields

variable {key : UInt8} {content bytes others rest : List UInt8}

/-- A complete field is followed by what the others are. -/
theorem Content.fields_iff (isContent : Content (wireTypeOf key) content) (allows : Allows key) :
    Fields (key :: (content ++ others)) ↔ Fields others := by
  constructor
  · intro fields
    obtain ⟨content', others', same, -, isContent', fields'⟩ := fields.cons_inv
    obtain ⟨rfl, rfl⟩ := isContent.unique isContent' same
    exact fields'
  · exact .cons allows isContent

theorem Content.slips_iff (isContent : Content (wireTypeOf key) content) (allows : Allows key)
    (small : (content ++ others).length < 2 ^ 64) : Slips (key :: (content ++ others)) ↔ Slips others := by
  constructor
  · intro slips
    rcases slips.cons_inv with ⟨content', others', same, -, isContent', slips'⟩ | ⟨bytes, others', same, wraps, -⟩
    · obtain ⟨rfl, rfl⟩ := isContent.unique isContent' same
      exact slips'
    · exact (wraps.not_content isContent same.symm (same ▸ small)).elim
  · exact .field allows isContent

theorem Wraps.not_fields (wraps : Wraps key bytes) (small : (bytes ++ others).length < 2 ^ 64) :
    ¬ Fields (key :: (bytes ++ others)) := by
  intro fields
  obtain ⟨content, others', same, -, isContent, -⟩ := fields.cons_inv
  exact wraps.not_content isContent same small

theorem Wraps.slips_iff (wraps : Wraps key bytes) (small : (bytes ++ others).length < 2 ^ 64) :
    Slips (key :: (bytes ++ others)) ↔
      Fields ((bytes ++ others).drop (wrapped bytes)) ∨ Slips ((bytes ++ others).drop (wrapped bytes)) := by
  constructor
  · intro slips
    rcases slips.cons_inv with ⟨content, others', same, -, isContent, -⟩ | ⟨bytes', others', same, wraps', next⟩
    · exact (wraps.not_content isContent same small).elim
    · obtain ⟨rfl, rfl⟩ := wraps.varint.unique wraps'.varint same
      exact next
  · rintro (fields | slips)
    · exact .last wraps fields
    · exact .again wraps slips

/-- No payload is a sequence of complete fields and one that slips. -/
theorem Slips.not_fields {payload : List UInt8} (slips : Slips payload) (small : payload.length < 2 ^ 64) :
    ¬ Fields payload := by
  induction slips with
  | @field key content others allows isContent _ ih =>
      rw [isContent.fields_iff allows]
      rw [List.length_cons, List.length_append] at small
      exact ih (by omega)
  | last wraps _ => exact wraps.not_fields (by rw [List.length_cons] at small; omega)
  | again wraps _ _ => exact wraps.not_fields (by rw [List.length_cons] at small; omega)

/-- Behind a key there is neither the content of a field nor one that wraps. -/
theorem not_accepted (none : ∀ content others, rest = content ++ others → Allows key → ¬ Content (wireTypeOf key) content)
    (never : ∀ bytes others, rest = bytes ++ others → ¬ Wraps key bytes) : ¬(Fields (key :: rest) ∨ Slips (key :: rest)) := by
  rintro (fields | slips)
  · obtain ⟨content, others, same, allows, isContent, -⟩ := fields.cons_inv
    exact none content others same allows isContent
  · rcases slips.cons_inv with ⟨content, others, same, allows, isContent, -⟩ | ⟨bytes, others, same, wraps, -⟩
    · exact none content others same allows isContent
    · exact never bytes others same wraps

/-- A key alone is no field. -/
theorem not_accepted_key (key : UInt8) : ¬(Fields [key] ∨ Slips [key]) := by
  apply not_accepted
  · intro content others same _ isContent
    obtain ⟨rfl, rfl⟩ := List.append_eq_nil_iff.mp same.symm
    exact Nat.lt_irrefl _ isContent.length_pos
  · intro bytes others same wraps
    obtain ⟨rfl, rfl⟩ := List.append_eq_nil_iff.mp same.symm
    exact Nat.lt_irrefl _ wraps.varint.complete.length_pos

end Fields

/-! ## One round of the decoder -/

/-- A place of the payload where a key is, with what is behind it. -/
structure StandsAt (payload : List UInt8) (position : Nat) (key : UInt8) (rest : List UInt8) : Prop where
  place : payload.drop position = key :: rest
  small : payload.length < 2 ^ 64

namespace StandsAt

variable {payload rest : List UInt8} {position : Nat} {key : UInt8}

theorem load (stands : StandsAt payload position key rest) :
    Memory.load payload position = .ok key ∧ payload.drop (position + 1) = rest := load_of_drop stands.place

theorem rest_lt (stands : StandsAt payload position key rest) : rest.length < 2 ^ 64 := by
  have length := congrArg List.length stands.place
  have small := stands.small
  rw [List.length_drop, List.length_cons] at length
  omega

/-- Either a number is behind the key or none is decoded. -/
theorem varint (stands : StandsAt payload position key rest) :
    (∃ bytes others, rest = bytes ++ others ∧ IsVarint bytes ∧ bytes.length ≤ rest.length ∧
      decodeProtobufVarint payload (position + 1) rest.length = .ok (bytes.length, number bytes % 2 ^ 64)) ∨
    ((∀ bytes others, rest = bytes ++ others → ¬ IsVarint bytes) ∧
      ∃ value, decodeProtobufVarint payload (position + 1) rest.length = .ok (0, value)) := by
  by_cases found : ∃ bytes others, rest = bytes ++ others ∧ IsVarint bytes
  · obtain ⟨bytes, others, rfl, isVarint⟩ := found
    refine .inl ⟨bytes, others, rfl, isVarint, ?_, ?_⟩
    · rw [List.length_append]
      omega
    · exact decodeProtobufVarint_complete stands.load.2 isVarint.complete isVarint.short
  · have none : ∀ bytes others, rest = bytes ++ others → ¬ IsVarint bytes :=
      fun bytes others same isVarint => found ⟨bytes, others, same, isVarint⟩
    refine .inr ⟨none, decodeProtobufVarint_incomplete stands.load.2 ?_⟩
    intro bytes others same complete
    by_contra short
    exact none bytes others same ⟨complete, Nat.not_lt.mp short⟩

end StandsAt

/-- What a round does with what it finds behind a key: it goes on behind the content of a complete
    field, it goes on somewhere in a field that wraps, or it is an error. -/
inductive Round (position : Nat) (key : UInt8) (rest : List UInt8) : Decoded → Prop where
  | field {content others : List UInt8} {next : CoapExtendedError} : rest = content ++ others → Allows key →
      Content (wireTypeOf key) content →
        Round position key rest (.ok (position + 1 + content.length, others.length, next))
  | slip {bytes others : List UInt8} {next : CoapExtendedError} : rest = bytes ++ others → Wraps key bytes →
      Round position key rest
        (.ok (position + 1 + wrapped bytes, (rest.drop (wrapped bytes)).length, next))
  | refused {error : Error} : ¬ Fields (key :: rest) → ¬ Slips (key :: rest) → Round position key rest (.error error)

section Rounds

variable {payload rest : List UInt8} {position : Nat} {key : UInt8} (self : CoapExtendedError)

/-- What makes a round an error. -/
theorem Round.of_none (error : Error)
    (none : ∀ content others, rest = content ++ others → Allows key → ¬ Content (wireTypeOf key) content)
    (never : ∀ bytes others, rest = bytes ++ others → ¬ Wraps key bytes) : Round position key rest (.error error) := by
  have neither := not_accepted none never
  exact .refused (fun fields => neither (.inl fields)) (fun slips => neither (.inr slips))

/-- Where no number is behind the key neither of these is. -/
theorem Round.of_noVarint (error : Error) (none : ∀ bytes others, rest = bytes ++ others → ¬ IsVarint bytes)
    (wire : wireTypeOf key = 0 ∨ wireTypeOf key = 2) : Round position key rest (.error error) := by
  refine .of_none error ?_ (fun bytes others same wraps => none bytes others same wraps.varint)
  intro content others same _ isContent
  rcases wire with wire | wire
  · rw [wire] at isContent
    cases isContent with
    | varint isVarint => exact none _ _ same isVarint
  · rw [wire] at isContent
    cases isContent with
    | delimited isVarint _ =>
        rw [List.append_assoc] at same
        exact none _ _ same isVarint

/-- Where fewer bytes are behind the number than it announces there is no complete field. -/
theorem not_delimited {bytes others : List UInt8} (isVarint : IsVarint bytes)
    (missing : others.length < number bytes % 2 ^ 64) (wire : wireTypeOf key = 2) (content others' : List UInt8)
    (same : bytes ++ others = content ++ others') : ¬ Content (wireTypeOf key) content := by
  intro isContent
  rw [wire] at isContent
  cases isContent with
  | delimited isVarint' announced =>
      rw [List.append_assoc] at same
      obtain ⟨rfl, rfl⟩ := isVarint.unique isVarint' same
      rw [List.length_append] at missing
      omega

/-- A string that is complete is taken. -/
theorem decodeString_field (stands : StandsAt payload position key rest) {bytes body others : List UInt8}
    (split : rest = bytes ++ (body ++ others)) (wire : wireTypeOf key = 2) (isVarint : IsVarint bytes)
    (announced : number bytes % 2 ^ 64 = body.length) (fieldNumber : Nat) :
    decodeString payload (position + 1) rest.length fieldNumber (wireTypeOf key) self =
      .ok (.ok (position + 1 + (bytes ++ body).length, others.length,
        self.setString fieldNumber (some ⟨body ++ others, body.length⟩))) := by
  subst split
  have place := stands.load.2
  have some_ := isVarint.complete.length_pos
  have few : bytes.length ≤ (bytes ++ (body ++ others)).length := by rw [List.length_append]; omega
  have left : (bytes ++ (body ++ others)).length - bytes.length = (body ++ others).length := by
    rw [List.length_append]
    omega
  have behind : payload.drop (position + 1 + bytes.length) = body ++ others := by
    rw [← List.drop_drop, place, List.drop_left]
  have room : ¬ (body ++ others).length < body.length := by rw [List.length_append]; omega
  rw [decodeString, if_neg (fun h => h wire), decodeProtobufVarint_complete place isVarint.complete isVarint.short, ok_bind]
  dsimp only
  rw [if_neg (by omega), assert_of few, ok_bind, left, behind, announced, if_neg room, List.length_append,
    List.length_append, Nat.add_sub_cancel_left, Nat.add_assoc _ bytes.length]
  rfl

theorem decodeString_round (stands : StandsAt payload position key rest) (isString : IsString key) :
    ∃ decoded, decodeString payload (position + 1) rest.length (fieldNumberOf key) (wireTypeOf key) self = .ok decoded ∧
      Round position key rest decoded := by
  have never : ∀ bytes others, rest = bytes ++ others → ¬ Wraps key bytes :=
    fun _ _ _ wraps => wraps.unknown.1 isString
  by_cases wire : wireTypeOf key = 2
  · have allows : Allows key := ⟨fun _ => wire, fun isCode => by
      unfold IsCode at isCode
      rcases isString with number | number <;> exact absurd (isCode.symm.trans number) (by decide)⟩
    rcases stands.varint with ⟨bytes, others, rfl, isVarint, few, decodes⟩ | ⟨none, value, decodes⟩
    · rcases Nat.lt_or_ge others.length (number bytes % 2 ^ 64) with missing | enough
      · have left : (bytes ++ others).length - bytes.length = others.length := by rw [List.length_append]; omega
        have some_ := isVarint.complete.length_pos
        refine ⟨.error .invalidFormat, ?_, .of_none _ (fun content others' same _ =>
          not_delimited isVarint missing wire content others' same) never⟩
        rw [decodeString, if_neg (fun h => h wire), decodes, ok_bind]
        dsimp only
        rw [if_neg (by omega), assert_of few, ok_bind, left, if_pos missing]
        rfl
      · obtain ⟨body, rest, rfl, length⟩ : ∃ body rest, others = body ++ rest ∧ body.length = number bytes % 2 ^ 64 :=
          ⟨_, _, (List.take_append_drop _ others).symm, by rw [List.length_take, Nat.min_eq_left enough]⟩
        have isContent : Content (wireTypeOf key) (bytes ++ body) := by
          rw [wire]
          exact .delimited isVarint length.symm
        exact ⟨_, decodeString_field self stands rfl wire isVarint length.symm _,
          .field (List.append_assoc _ _ _).symm allows isContent⟩
    · refine ⟨.error .invalidFormat, ?_, .of_noVarint _ none (.inr wire)⟩
      rw [decodeString, if_neg (fun h => h wire), decodes]
      rfl
  · refine ⟨.error .invalidSyntax, ?_, .of_none _ (fun _ _ _ allows => absurd (allows.string isString) wire) never⟩
    rw [decodeString, if_pos wire]
    rfl

/-- A code that is complete is taken. -/
theorem decodeCode_field (stands : StandsAt payload position key rest) {bytes others : List UInt8}
    (split : rest = bytes ++ others) (wire : wireTypeOf key = 0) (isVarint : IsVarint bytes) :
    decodeCode payload (position + 1) rest.length (wireTypeOf key) self =
      .ok (.ok (position + 1 + bytes.length, others.length,
        { self with code := (protobufSignedFromZigZag (UInt64.ofNat (number bytes % 2 ^ 64))).toInt32 })) := by
  subst split
  have some_ := isVarint.complete.length_pos
  have few : bytes.length ≤ (bytes ++ others).length := by rw [List.length_append]; omega
  have left : (bytes ++ others).length - bytes.length = others.length := by rw [List.length_append]; omega
  rw [decodeCode, if_neg (fun h => h wire), decodeProtobufVarint_complete stands.load.2 isVarint.complete isVarint.short,
    ok_bind]
  dsimp only
  rw [if_neg (by omega), assert_of few, ok_bind, left]
  rfl

theorem decodeCode_round (stands : StandsAt payload position key rest) (isCode : IsCode key) :
    ∃ decoded, decodeCode payload (position + 1) rest.length (wireTypeOf key) self = .ok decoded ∧
      Round position key rest decoded := by
  by_cases wire : wireTypeOf key = 0
  · have allows : Allows key := ⟨fun isString => by
      unfold IsCode at isCode
      rcases isString with number | number <;> exact absurd (isCode.symm.trans number) (by decide), fun _ => wire⟩
    rcases stands.varint with ⟨bytes, others, split, isVarint, -, -⟩ | ⟨none, value, decodes⟩
    · have isContent : Content (wireTypeOf key) bytes := by
        rw [wire]
        exact .varint isVarint
      exact ⟨_, decodeCode_field self stands split wire isVarint, .field split allows isContent⟩
    · refine ⟨.error .invalidFormat, ?_, .of_noVarint _ none (.inl wire)⟩
      rw [decodeCode, if_neg (fun h => h wire), decodes]
      rfl
  · refine ⟨.error .invalidSyntax, ?_, .of_none _ (fun _ _ _ allows => absurd (allows.code isCode) wire)
      (fun _ _ _ wraps => wraps.unknown.2 isCode)⟩
    rw [decodeCode, if_pos wire]
    rfl

theorem skippedSize_varint {position payloadSize n value : Nat}
    (decodes : decodeProtobufVarint payload position payloadSize = .ok (n, value)) :
    skippedSize payload position payloadSize 0 = .ok (if n = 0 then none else some n) := by
  rw [skippedSize, if_pos (by rfl), decodes]
  rfl

theorem skippedSize_delimited {position payloadSize n value : Nat}
    (decodes : decodeProtobufVarint payload position payloadSize = .ok (n, value)) :
    skippedSize payload position payloadSize 2 = .ok (if n = 0 then none else some ((n + value) % 2 ^ 64)) := by
  rw [skippedSize, if_neg (by decide), if_pos (by rfl), decodes]
  rfl

theorem skipField_of_none {position payloadSize wireType : Nat}
    (sizes : skippedSize payload position payloadSize wireType = .ok none) :
    skipField payload position payloadSize wireType self = .ok (.error .invalidFormat) := by
  rw [skipField, sizes]
  rfl

theorem skipField_of_size {position payloadSize wireType size : Nat}
    (sizes : skippedSize payload position payloadSize wireType = .ok (some size)) :
    skipField payload position payloadSize wireType self =
      if size > payloadSize then .ok (.error .invalidFormat)
      else .ok (.ok (position + size, payloadSize - size, self)) := by
  rw [skipField, sizes, ok_bind]
  dsimp only
  split <;> rfl

/-- Skipping a field whose size its wire type tells. -/
theorem skipField_fixed (unknown : ¬ IsString key ∧ ¬ IsCode key) {size : Nat}
    (sizes : skippedSize payload (position + 1) rest.length (wireTypeOf key) = .ok (some size))
    (contents : ∀ content, Content (wireTypeOf key) content ↔ content.length = size) (fixed : wireTypeOf key ≠ 2) :
    ∃ decoded, skipField payload (position + 1) rest.length (wireTypeOf key) self = .ok decoded ∧
      Round position key rest decoded := by
  rw [skipField_of_size self sizes]
  rcases Nat.lt_or_ge rest.length size with missing | enough
  · rw [if_pos missing]
    refine ⟨_, rfl, .of_none _ ?_ (fun _ _ _ wraps => fixed wraps.delimited)⟩
    rintro content others rfl _ isContent
    rw [contents] at isContent
    rw [List.length_append] at missing
    omega
  · rw [if_neg (Nat.not_lt.mpr enough)]
    have length : (rest.take size).length = size := by rw [List.length_take, Nat.min_eq_left enough]
    have round := @Round.field position key rest (rest.take size) (rest.drop size) self
      (List.take_append_drop _ _).symm (.unknown unknown) ((contents _).mpr length)
    rw [length, List.length_drop] at round
    exact ⟨_, rfl, round⟩

/-- Skipping a field that announces its size. -/
theorem skipField_delimited (stands : StandsAt payload position key rest) (unknown : ¬ IsString key ∧ ¬ IsCode key)
    (wire : wireTypeOf key = 2) :
    ∃ decoded, skipField payload (position + 1) rest.length (wireTypeOf key) self = .ok decoded ∧
      Round position key rest decoded := by
  have small := stands.rest_lt
  rcases stands.varint with ⟨bytes, others, rfl, isVarint, few, decodes⟩ | ⟨none, value, decodes⟩
  · have some_ := isVarint.complete.length_pos
    have short := isVarint.short
    have announced : number bytes % 2 ^ 64 < 2 ^ 64 := Nat.mod_lt _ (by decide)
    have sizes : skippedSize payload (position + 1) (bytes ++ others).length (wireTypeOf key) =
        .ok (some ((bytes.length + number bytes % 2 ^ 64) % 2 ^ 64)) := by
      rw [wire, skippedSize_delimited decodes, if_neg (by omega)]
    rw [skipField_of_size self sizes]
    rw [List.length_append] at small
    rcases Nat.lt_or_ge others.length (number bytes % 2 ^ 64) with missing | enough
    · rcases Nat.lt_or_ge (bytes.length + number bytes % 2 ^ 64) (2 ^ 64) with noWrap | large
      · have tooLarge : (bytes.length + number bytes % 2 ^ 64) % 2 ^ 64 > (bytes ++ others).length := by
          rw [Nat.mod_eq_of_lt noWrap, List.length_append]
          omega
        rw [if_pos tooLarge]
        refine ⟨_, rfl, .of_none _ (fun content others' same _ => not_delimited isVarint missing wire content others' same) ?_⟩
        intro bytes' others' same wraps
        obtain ⟨rfl, -⟩ := isVarint.unique wraps.varint same
        exact absurd wraps.large (Nat.not_le.mpr noWrap)
      · have wraps : Wraps key bytes := ⟨wire, unknown, isVarint, large⟩
        have skipped : (bytes.length + number bytes % 2 ^ 64) % 2 ^ 64 = wrapped bytes := by
          unfold wrapped
          omega
        have inside : ¬ wrapped bytes > (bytes ++ others).length := by
          rw [List.length_append]
          unfold wrapped
          omega
        have round := @Round.slip position key (bytes ++ others) bytes others self rfl wraps
        rw [List.length_drop] at round
        rw [skipped, if_neg inside]
        exact ⟨_, rfl, round⟩
    · obtain ⟨body, rest, rfl, length⟩ : ∃ body rest, others = body ++ rest ∧ body.length = number bytes % 2 ^ 64 :=
        ⟨_, _, (List.take_append_drop _ others).symm, by rw [List.length_take, Nat.min_eq_left enough]⟩
      have isContent : Content (wireTypeOf key) (bytes ++ body) := by
        rw [wire]
        exact .delimited isVarint length.symm
      have total : (bytes.length + number bytes % 2 ^ 64) % 2 ^ 64 = (bytes ++ body).length := by
        rw [List.length_append] at small
        rw [List.length_append, ← length]
        exact Nat.mod_eq_of_lt (by omega)
      have left : (bytes ++ (body ++ rest)).length - (bytes ++ body).length = rest.length := by
        rw [← List.append_assoc, List.length_append, Nat.add_sub_cancel_left]
      have inside : ¬ (bytes ++ body).length > (bytes ++ (body ++ rest)).length := by
        rw [← List.append_assoc, @List.length_append _ (bytes ++ body)]
        omega
      rw [total, if_neg inside, left]
      exact ⟨_, rfl, .field (List.append_assoc _ _ _).symm (.unknown unknown) isContent⟩
  · have sizes : skippedSize payload (position + 1) rest.length (wireTypeOf key) = .ok Option.none := by
      rw [wire, skippedSize_delimited decodes, if_pos rfl]
    exact ⟨_, skipField_of_none self sizes, .of_noVarint _ none (.inr wire)⟩

theorem skipField_varint (stands : StandsAt payload position key rest) (unknown : ¬ IsString key ∧ ¬ IsCode key)
    (wire : wireTypeOf key = 0) :
    ∃ decoded, skipField payload (position + 1) rest.length (wireTypeOf key) self = .ok decoded ∧
      Round position key rest decoded := by
  rcases stands.varint with ⟨bytes, others, rfl, isVarint, few, decodes⟩ | ⟨none, value, decodes⟩
  · have some_ := isVarint.complete.length_pos
    have sizes : skippedSize payload (position + 1) (bytes ++ others).length (wireTypeOf key) = .ok (some bytes.length) := by
      rw [wire, skippedSize_varint decodes, if_neg (by omega)]
    have left : (bytes ++ others).length - bytes.length = others.length := by rw [List.length_append]; omega
    have isContent : Content (wireTypeOf key) bytes := by
      rw [wire]
      exact .varint isVarint
    rw [skipField_of_size self sizes, if_neg (Nat.not_lt.mpr few), left]
    exact ⟨_, rfl, .field rfl (.unknown unknown) isContent⟩
  · have sizes : skippedSize payload (position + 1) rest.length (wireTypeOf key) = .ok Option.none := by
      rw [wire, skippedSize_varint decodes, if_pos rfl]
    exact ⟨_, skipField_of_none self sizes, .of_noVarint _ none (.inl wire)⟩

theorem skipField_round (stands : StandsAt payload position key rest) (unknown : ¬ IsString key ∧ ¬ IsCode key) :
    ∃ decoded, skipField payload (position + 1) rest.length (wireTypeOf key) self = .ok decoded ∧
      Round position key rest decoded := by
  by_cases varint : wireTypeOf key = 0
  · exact skipField_varint self stands unknown varint
  · by_cases delimited : wireTypeOf key = 2
    · exact skipField_delimited self stands unknown delimited
    · by_cases word32 : wireTypeOf key = 5
      · have contents : ∀ content, Content (wireTypeOf key) content ↔ content.length = 4 := by
          intro content
          rw [word32]
          exact ⟨fun h => by cases h; assumption, .word32⟩
        exact skipField_fixed self unknown (by rw [skippedSize, word32]; rfl) contents delimited
      · by_cases word64 : wireTypeOf key = 1
        · have contents : ∀ content, Content (wireTypeOf key) content ↔ content.length = 8 := by
            intro content
            rw [word64]
            exact ⟨fun h => by cases h; assumption, .word64⟩
          exact skipField_fixed self unknown (by rw [skippedSize, word64]; rfl) contents delimited
        · have sizes : skippedSize payload (position + 1) rest.length (wireTypeOf key) = .ok none := by
            rw [skippedSize]
            exact (if_neg varint).trans ((if_neg delimited).trans ((if_neg word32).trans (if_neg word64)))
          have nothing : ∀ content, ¬ Content (wireTypeOf key) content := by
            intro content isContent
            generalize wireTypeOf key = wireType at *
            cases isContent with
            | varint => exact varint rfl
            | word64 => exact word64 rfl
            | delimited => exact delimited rfl
            | word32 => exact word32 rfl
          exact ⟨_, skipField_of_none self sizes, .of_none _ (fun content _ _ _ => nothing content)
            (fun _ _ _ wraps => delimited wraps.delimited)⟩

/-- One round. -/
theorem decodeField_round (stands : StandsAt payload position key rest) :
    ∃ decoded, decodeField payload position (rest.length + 1) self = .ok decoded ∧ Round position key rest decoded := by
  rw [decodeField, stands.load.1, ok_bind]
  by_cases isString : IsString key
  · obtain ⟨decoded, decodes, round⟩ := decodeString_round self stands isString
    exact ⟨decoded, (if_pos isString).trans decodes, round⟩
  · by_cases isCode : IsCode key
    · obtain ⟨decoded, decodes, round⟩ := decodeCode_round self stands isCode
      exact ⟨decoded, (if_neg isString).trans ((if_pos isCode).trans decodes), round⟩
    · obtain ⟨decoded, decodes, round⟩ := skipField_round self stands ⟨isString, isCode⟩
      exact ⟨decoded, (if_neg isString).trans ((if_neg isCode).trans decodes), round⟩

end Rounds

/-! ## The loop -/

/-- The decoder comes to an end inside of the payload, and accepts what is a sequence of complete
    fields or slips. -/
theorem decodeFields_iff {payload : List UInt8} (small : payload.length < 2 ^ 64) {rest : List UInt8} {position fuel : Nat}
    (place : payload.drop position = rest) (enough : rest.length < fuel) (self : CoapExtendedError) :
    ∃ outcome, decodeFields payload fuel position rest.length self = .ok outcome ∧
      ((∃ next, outcome = .ok next) ↔ Fields rest ∨ Slips rest) := by
  induction fuel generalizing rest position self with
  | zero => exact absurd enough (Nat.not_lt_zero _)
  | succ fuel ih =>
      match rest, place, enough with
      | [], _, _ => exact ⟨.ok self, rfl, fun _ => .inl .nil, fun _ => ⟨self, rfl⟩⟩
      | [key], _, _ => exact ⟨.error .invalidFormat, rfl, fun ⟨_, h⟩ => (nomatch h), fun h => absurd h (not_accepted_key key)⟩
      | key :: b :: rest, place, enough =>
          have stands : StandsAt payload position key (b :: rest) := ⟨place, small⟩
          have smaller := stands.rest_lt
          have two : (key :: b :: rest).length ≥ 2 := by simp
          obtain ⟨decoded, decodes, round⟩ := decodeField_round self stands
          rw [decodeFields, if_pos two, List.length_cons, decodes, ok_bind]
          rw [List.length_cons] at enough
          generalize b :: rest = rest at *
          cases round with
          | @field content others next split allows isContent =>
              subst split
              rw [List.length_append] at enough
              have behind : payload.drop (position + 1 + content.length) = others := by
                rw [← List.drop_drop, stands.load.2, List.drop_left]
              obtain ⟨outcome, decodes', accepted⟩ := ih behind (by omega) next
              refine ⟨outcome, decodes', accepted.trans ?_⟩
              rw [isContent.fields_iff allows, isContent.slips_iff allows smaller]
          | @slip bytes others next split wraps =>
              subst split
              have behind : payload.drop (position + 1 + wrapped bytes) = (bytes ++ others).drop (wrapped bytes) := by
                rw [← List.drop_drop, stands.load.2]
              obtain ⟨outcome, decodes', accepted⟩ := ih behind (by rw [List.length_drop]; omega) next
              refine ⟨outcome, decodes', accepted.trans ?_⟩
              rw [wraps.slips_iff smaller, or_iff_right (wraps.not_fields smaller)]
          | @refused error noFields noSlips =>
              refine ⟨.error error, rfl, fun ⟨_, h⟩ => (nomatch h), ?_⟩
              rintro (fields | slips)
              · exact absurd fields noFields
              · exact absurd slips noSlips

end GoldenGate.Coap.ExtendedError
