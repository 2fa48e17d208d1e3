import GoldenGate.Common.Base64

/-! # Base64 texts

The decoder on any text, where `char` is signed and where it is not, and the round trip in both
alphabets. The sign matters: a character from 128 on is negative where `char` is signed, and is
then not told from one that has a place in the table.
-/

namespace GoldenGate.Base64

open Memory

/-- `(int)input[i]`. -/
def charInt (isSigned : Bool) (c : UInt8) : Int :=
  if isSigned ∧ 128 ≤ c.toNat then (c.toNat : Int) - 256 else c.toNat

/-- `GG_Base64_Bytes[c]`. -/
def tableAt : Int → Access Int
  | .ofNat n =>
      match base64Bytes[n]? with
      | some v => .ok v
      | none => .error .outOfBounds
  | .negSucc _ => .error .outOfBounds

/-- The check of the input in `GG_Base64_Decode`, for a `char` of either kind. -/
def checkInputOf (isSigned urlSafe : Bool) : List UInt8 → Nat → Nat → Access (Option Nat)
  | [], _, charCount => .ok (some charCount)
  | c :: rest, padding, charCount =>
      if c = charByte '\r' ∨ c = charByte '\n' then checkInputOf isSigned urlSafe rest padding charCount
      else if c = charByte '=' then
        if padding + 1 > 2 then .ok none else checkInputOf isSigned urlSafe rest (padding + 1) charCount
      else if padding ≠ 0 then .ok none
      else if urlSafe ∧ (c = charByte '+' ∨ c = charByte '/') then .ok none
      else if ¬ urlSafe ∧ (c = charByte '-' ∨ c = charByte '_') then .ok none
      else if charInt isSigned c > 127 then .ok none
      else do
        let v ← tableAt (charInt isSigned c)
        if v < 0 then .ok none else checkInputOf isSigned urlSafe rest padding (charCount + 1)

/-- The loop over the blocks. -/
def decodeBlocksOf (isSigned : Bool) : List UInt8 → Decoding → Access Decoding
  | [], decoding => .ok decoding
  | c :: rest, decoding =>
      if c = charByte '\r' ∨ c = charByte '\n' then decodeBlocksOf isSigned rest decoding
      else if c = charByte '=' then .ok decoding
      else do
        let v ← tableAt (charInt isSigned c)
        decodeBlocksOf isSigned rest (decoding.push v)

/-- The number of bytes that so many characters stand for. -/
def decodedSize (charCount : Nat) : Nat :=
  3 * (charCount / 4) + if charCount % 4 = 0 then 0 else charCount % 4 - 1

/-- `GG_Base64_Decode`, as `decode`, for a `char` of either kind. -/
def decodeOf (isSigned : Bool) (input : List UInt8) (bufferSize : Nat) (urlSafe : Bool) :
    Access (Except Error (List UInt8) × Nat) := do
  if input = [] then .error .outOfBounds
  else
    match ← checkInputOf isSigned urlSafe input 0 0 with
    | none => return (.error .invalidFormat, 0)
    | some charCount =>
        if charCount % 4 = 1 then return (.error .invalidFormat, 0)
        else if bufferSize < decodedSize charCount then return (.error .notEnoughSpace, decodedSize charCount)
        else if decodedSize charCount = 0 then return (.ok [], 0)
        else
          let decoding ← decodeBlocksOf isSigned input ⟨[], 0, 0⟩
          return (.ok decoding.finish, decodedSize charCount)

/-! ## The table -/

theorem tableAt_low (isSigned : Bool) {c : UInt8} (low : c.toNat < 128) :
    tableAt (charInt isSigned c) = .ok (base64Bytes.getD c.toNat 0) ∧ ¬ charInt isSigned c > 127 := by
  have isLow : charInt isSigned c = Int.ofNat c.toNat := by
    rw [charInt, if_neg (by omega)]
    rfl
  have inside : c.toNat < base64Bytes.length := low
  constructor
  · rw [isLow, tableAt, List.getElem?_eq_getElem inside, List.getD_eq_getElem _ _ inside]
  · rw [isLow, Int.ofNat_eq_natCast]
    omega

theorem tableAt_high {c : UInt8} (high : 128 ≤ c.toNat) :
    tableAt (charInt true c) = .error .outOfBounds ∧ ¬ charInt true c > 127 := by
  have small := c.toNat_lt
  have negative : charInt true c = Int.negSucc (255 - c.toNat) := by
    rw [charInt, if_pos ⟨rfl, high⟩]
    omega
  rw [negative]
  exact ⟨rfl, by omega⟩

theorem charInt_high {c : UInt8} (high : 128 ≤ c.toNat) : charInt false c > 127 := by
  rw [charInt, if_neg (by simp)]
  omega

/-- A character of the chosen alphabet. -/
structure Digit (urlSafe : Bool) (c : UInt8) : Prop where
  low : c.toNat < 128
  value : 0 ≤ base64Bytes.getD c.toNat 0
  chosen : if urlSafe then c ≠ charByte '+' ∧ c ≠ charByte '/' else c ≠ charByte '-' ∧ c ≠ charByte '_'

/-- A line end, or a character of the chosen alphabet. -/
def Plain (urlSafe : Bool) (c : UInt8) : Prop := c = charByte '\r' ∨ c = charByte '\n' ∨ Digit urlSafe c

/-- Only line ends and characters of the alphabet are before a byte from 128 on. -/
inductive ReachesHigh (urlSafe : Bool) : List UInt8 → Prop where
  | here {c : UInt8} {rest : List UInt8} : 128 ≤ c.toNat → ReachesHigh urlSafe (c :: rest)
  | later {c : UInt8} {rest : List UInt8} : Plain urlSafe c → ReachesHigh urlSafe rest →
      ReachesHigh urlSafe (c :: rest)

/-! ## Kinds of characters -/

section Kinds

variable {isSigned urlSafe : Bool} {c : UInt8} (rest : List UInt8) (charCount : Nat)

theorem Digit.not_marker (digit : Digit urlSafe c) :
    ¬(c = charByte '\r' ∨ c = charByte '\n') ∧ c ≠ charByte '=' := by
  have value := digit.value
  constructor
  · rintro (rfl | rfl)
    · exact absurd value (by decide)
    · exact absurd value (by decide)
  · rintro rfl
    exact absurd value (by decide)

theorem high_ne (high : 128 ≤ c.toNat) {d : UInt8} (low : d.toNat < 128) : c ≠ d := by
  rintro rfl
  omega

theorem check_lineEnd (lineEnd : c = charByte '\r' ∨ c = charByte '\n') (padding : Nat) :
    checkInputOf isSigned urlSafe (c :: rest) padding charCount = checkInputOf isSigned urlSafe rest padding charCount := by
  rw [checkInputOf, if_pos lineEnd]

theorem check_pad : checkInputOf isSigned urlSafe (charByte '=' :: rest) 0 charCount =
    checkInputOf isSigned urlSafe rest 1 charCount := by
  rw [checkInputOf, if_neg (by decide), if_pos rfl, if_neg (by decide)]

theorem check_digit (digit : Digit urlSafe c) : checkInputOf isSigned urlSafe (c :: rest) 0 charCount =
    checkInputOf isSigned urlSafe rest 0 (charCount + 1) := by
  obtain ⟨lineEnd, pad⟩ := digit.not_marker
  obtain ⟨inside, small⟩ := tableAt_low isSigned digit.low
  have chosen := digit.chosen
  have value : ¬ base64Bytes.getD c.toNat 0 < 0 := Int.not_lt.mpr digit.value
  rw [checkInputOf, if_neg lineEnd, if_neg pad, if_neg (by simp), inside, ok_bind, if_neg value, if_neg small]
  cases urlSafe with
  | true => simp_all
  | false => simp_all

theorem check_high (high : 128 ≤ c.toNat) : checkInputOf isSigned urlSafe (c :: rest) 0 charCount =
    if isSigned then .error .outOfBounds else .ok none := by
  have cr : c ≠ charByte '\r' := high_ne high (by decide)
  have lf : c ≠ charByte '\n' := high_ne high (by decide)
  have pad : c ≠ charByte '=' := high_ne high (by decide)
  have plus : c ≠ charByte '+' := high_ne high (by decide)
  have slash : c ≠ charByte '/' := high_ne high (by decide)
  have minus : c ≠ charByte '-' := high_ne high (by decide)
  have under : c ≠ charByte '_' := high_ne high (by decide)
  rw [checkInputOf, if_neg (by simp [cr, lf]), if_neg pad, if_neg (by simp), if_neg (by simp [plus, slash]),
    if_neg (by simp [minus, under])]
  cases isSigned with
  | true =>
      obtain ⟨outside, small⟩ := tableAt_high high
      rw [if_neg small, outside, error_bind, if_pos rfl]
  | false => rw [if_pos (charInt_high high), if_neg Bool.false_ne_true]

theorem check_refused (low : c.toNat < 128) (pad : c ≠ charByte '=') (refused : ¬ Plain urlSafe c) :
    checkInputOf isSigned urlSafe (c :: rest) 0 charCount = .ok none := by
  obtain ⟨inside, small⟩ := tableAt_low isSigned low
  have lineEnd : ¬(c = charByte '\r' ∨ c = charByte '\n') := fun h => refused (h.imp id .inl)
  rw [checkInputOf, if_neg lineEnd, if_neg pad, if_neg (by simp), inside, ok_bind]
  by_cases value : base64Bytes.getD c.toNat 0 < 0
  · rw [if_pos value, if_neg small, ite_self, ite_self]
  · have unchosen : ¬ if urlSafe then c ≠ charByte '+' ∧ c ≠ charByte '/' else c ≠ charByte '-' ∧ c ≠ charByte '_' :=
      fun chosen => refused (.inr (.inr ⟨low, Int.not_lt.mp value, chosen⟩))
    cases urlSafe with
    | true =>
        have excluded : c = charByte '+' ∨ c = charByte '/' := by simpa [or_iff_not_imp_left] using unchosen
        rw [if_pos ⟨rfl, excluded⟩]
    | false =>
        have excluded : c = charByte '-' ∨ c = charByte '_' := by simpa [or_iff_not_imp_left] using unchosen
        rw [if_neg (by simp), if_pos ⟨Bool.false_ne_true, excluded⟩]

/-- Behind padding no character is looked up, and none is counted. -/
theorem check_padded {padding : Nat} (padded : padding ≠ 0) :
    checkInputOf isSigned urlSafe rest padding charCount = .ok none ∨
      checkInputOf isSigned urlSafe rest padding charCount = .ok (some charCount) := by
  induction rest generalizing padding with
  | nil => exact .inr rfl
  | cons c rest ih =>
      unfold checkInputOf
      split
      case isTrue => exact ih padded
      case isFalse =>
          split
          case isTrue =>
              split
              case isTrue => exact .inl rfl
              case isFalse => exact ih (Nat.succ_ne_zero _)
          case isFalse => exact .inl rfl

/-- Every character is of one kind. -/
theorem kinds (urlSafe : Bool) (c : UInt8) :
    (c = charByte '\r' ∨ c = charByte '\n') ∨ c = charByte '=' ∨ Digit urlSafe c ∨ 128 ≤ c.toNat ∨
      (c.toNat < 128 ∧ c ≠ charByte '=' ∧ ¬ Plain urlSafe c) := by
  by_cases lineEnd : c = charByte '\r' ∨ c = charByte '\n'
  · exact .inl lineEnd
  · by_cases pad : c = charByte '='
    · exact .inr (.inl pad)
    · by_cases digit : Digit urlSafe c
      · exact .inr (.inr (.inl digit))
      · have refused : ¬ Plain urlSafe c := by
          rintro (cr | lf | isDigit)
          · exact lineEnd (.inl cr)
          · exact lineEnd (.inr lf)
          · exact digit isDigit
        rcases Nat.lt_or_ge c.toNat 128 with low | high
        · exact .inr (.inr (.inr (.inr ⟨low, pad, refused⟩)))
        · exact .inr (.inr (.inr (.inl high)))

end Kinds

/-! ## The check -/

theorem Plain.low {urlSafe : Bool} {c : UInt8} (plain : Plain urlSafe c) : c.toNat < 128 := by
  rcases plain with rfl | rfl | digit
  · decide
  · decide
  · exact digit.low

/-- The check leaves the table where a byte from 128 on is reached and `char` is signed. -/
theorem check_ok_iff (isSigned urlSafe : Bool) (input : List UInt8) (charCount : Nat) :
    (∃ checked, checkInputOf isSigned urlSafe input 0 charCount = .ok checked) ↔
      ¬(isSigned = true ∧ ReachesHigh urlSafe input) := by
  induction input generalizing charCount with
  | nil => exact ⟨fun _ reaches => (nomatch reaches.2), fun _ => ⟨_, rfl⟩⟩
  | cons c rest ih =>
      -- what is reached behind a character that the check goes on from
      have later : Plain urlSafe c → (ReachesHigh urlSafe (c :: rest) ↔ ReachesHigh urlSafe rest) := by
        intro plain
        constructor
        · intro reaches
          cases reaches with
          | here high => exact absurd plain.low (Nat.not_lt.mpr high)
          | later _ reaches => exact reaches
        · exact .later plain
      have nothing : c.toNat < 128 → ¬ Plain urlSafe c → ¬ ReachesHigh urlSafe (c :: rest) := by
        intro low refused reaches
        cases reaches with
        | here high => exact Nat.not_lt.mpr high low
        | later plain _ => exact refused plain
      rcases kinds urlSafe c with lineEnd | rfl | digit | high | ⟨low, pad, refused⟩
      · rw [check_lineEnd rest charCount lineEnd, ih, later (lineEnd.imp id .inl)]
      · have refused : ¬ Plain urlSafe (charByte '=') := by
          rintro (cr | lf | digit)
          · exact absurd cr (by decide)
          · exact absurd lf (by decide)
          · exact digit.not_marker.2 rfl
        have reaches := nothing (by decide) refused
        rw [check_pad]
        rcases @check_padded isSigned urlSafe rest charCount 1 (by decide) with checked | checked
        · exact ⟨fun _ h => reaches h.2, fun _ => ⟨_, checked⟩⟩
        · exact ⟨fun _ h => reaches h.2, fun _ => ⟨_, checked⟩⟩
      · rw [check_digit rest charCount digit, ih, later (.inr (.inr digit))]
      · rw [check_high rest charCount high]
        cases isSigned with
        | true => exact ⟨fun ⟨_, h⟩ => (nomatch h), fun h => absurd ⟨rfl, .here high⟩ h⟩
        | false => exact ⟨fun _ h => (nomatch h.1), fun _ => ⟨_, rfl⟩⟩
      · rw [check_refused rest charCount low pad refused]
        exact ⟨fun _ h => nothing low refused h.2, fun _ => ⟨_, rfl⟩⟩

/-- What the check passes, by the first character. -/
theorem check_some {isSigned urlSafe : Bool} {c : UInt8} {rest : List UInt8} {charCount m : Nat}
    (checked : checkInputOf isSigned urlSafe (c :: rest) 0 charCount = .ok (some m)) :
    ((c = charByte '\r' ∨ c = charByte '\n') ∧ checkInputOf isSigned urlSafe rest 0 charCount = .ok (some m)) ∨
      (c = charByte '=' ∧ m = charCount) ∨
        (Digit urlSafe c ∧ checkInputOf isSigned urlSafe rest 0 (charCount + 1) = .ok (some m)) := by
  rcases kinds urlSafe c with lineEnd | rfl | digit | high | ⟨low, pad, refused⟩
  · rw [check_lineEnd rest charCount lineEnd] at checked
    exact .inl ⟨lineEnd, checked⟩
  · rw [check_pad] at checked
    rcases @check_padded isSigned urlSafe rest charCount 1 (by decide) with padded | padded
    · cases padded.symm.trans checked
    · cases padded.symm.trans checked
      exact .inr (.inl ⟨rfl, rfl⟩)
  · rw [check_digit rest charCount digit] at checked
    exact .inr (.inr ⟨digit, checked⟩)
  · rw [check_high rest charCount high] at checked
    cases isSigned with
    | true => cases checked
    | false => cases checked
  · rw [check_refused rest charCount low pad refused] at checked
    cases checked

/-! ## What is decoded -/

theorem Decoding.charCount_push (self : Decoding) (v : Int) : (self.push v).charCount = self.charCount + 1 := rfl

theorem Decoding.length_push (self : Decoding) (v : Int) :
    (self.push v).output.length + 3 * (self.charCount / 4) = self.output.length + 3 * ((self.charCount + 1) / 4) := by
  rw [Decoding.push]
  dsimp only
  split
  case isTrue full => rw [List.length_append, List.length_cons, List.length_cons, List.length_singleton]; omega
  case isFalse inside => omega

/-- The loop over the blocks of a text that passed the check looks up what the check did, and its
    output grows by three bytes for each block. -/
theorem decodeBlocksOf_ok {isSigned urlSafe : Bool} {input : List UInt8} {decoding : Decoding} {m : Nat}
    (checked : checkInputOf isSigned urlSafe input 0 decoding.charCount = .ok (some m)) :
    decodeBlocksOf isSigned input decoding = .ok (decodeBlocks input decoding) ∧
      (decodeBlocks input decoding).charCount = m ∧
        (decodeBlocks input decoding).output.length + 3 * (decoding.charCount / 4) =
          decoding.output.length + 3 * (m / 4) := by
  induction input generalizing decoding with
  | nil =>
      cases checked
      exact ⟨rfl, rfl, rfl⟩
  | cons c rest ih =>
      rcases check_some checked with ⟨lineEnd, checked⟩ | ⟨rfl, rfl⟩ | ⟨digit, checked⟩
      · rw [decodeBlocksOf, if_pos lineEnd, decodeBlocks, if_pos lineEnd]
        exact ih checked
      · exact ⟨rfl, rfl, rfl⟩
      · obtain ⟨lineEnd, pad⟩ := digit.not_marker
        obtain ⟨inside, -⟩ := tableAt_low isSigned digit.low
        have pushed := decoding.length_push (base64Bytes.getD c.toNat 0)
        obtain ⟨decodes, count, length⟩ := @ih (decoding.push (base64Bytes.getD c.toNat 0)) checked
        rw [Decoding.charCount_push] at length
        rw [decodeBlocksOf, if_neg lineEnd, if_neg pad, inside, ok_bind, decodeBlocks, if_neg lineEnd, if_neg pad]
        exact ⟨decodes, count, by omega⟩

theorem Decoding.length_finish {self : Decoding} {m : Nat} (count : self.charCount = m)
    (length : self.output.length = 3 * (m / 4)) : self.finish.length = decodedSize m := by
  unfold Decoding.finish decodedSize
  rw [count]
  split
  case isTrue three => simp [length, three]
  case isFalse =>
      split
      case isTrue two => rw [List.length_append, length, List.length_singleton]; split <;> omega
      case isFalse => rw [length]; split <;> omega

/-- The result for a text that passed the check. -/
theorem decodeOf_of_check {isSigned urlSafe : Bool} {input : List UInt8} {m : Nat} (some_ : input ≠ [])
    (checked : checkInputOf isSigned urlSafe input 0 0 = .ok (some m)) (tail : m % 4 ≠ 1) (bufferSize : Nat) :
    (decodeBlocks input ⟨[], 0, 0⟩).finish.length = decodedSize m ∧
      decodeOf isSigned input bufferSize urlSafe =
        .ok (if bufferSize < decodedSize m then .error .notEnoughSpace else .ok (decodeBlocks input ⟨[], 0, 0⟩).finish,
          decodedSize m) := by
  obtain ⟨decodes, count, grown⟩ := @decodeBlocksOf_ok isSigned urlSafe input ⟨[], 0, 0⟩ m checked
  have length := Decoding.length_finish count (by simpa using grown)
  refine ⟨length, ?_⟩
  rw [decodeOf, if_neg some_, checked, ok_bind]
  dsimp only
  rw [if_neg tail]
  split
  case isTrue => rfl
  case isFalse =>
      split
      case isTrue nothing =>
          rw [nothing] at length
          rw [List.eq_nil_of_length_eq_zero length, nothing]
          rfl
      case isFalse => rw [decodes, ok_bind]; rfl

/-- Where `char` is signed the decoder is the one of `decode`. -/
theorem checkInputOf_signed (urlSafe : Bool) (input : List UInt8) (padding charCount : Nat) :
    checkInputOf true urlSafe input padding charCount = checkInput urlSafe input padding charCount := by
  induction input generalizing padding charCount with
  | nil => rfl
  | cons c rest ih =>
      unfold checkInputOf checkInput
      simp only [ih]
      rcases Nat.lt_or_ge c.toNat 128 with low | high
      · obtain ⟨inside, small⟩ := tableAt_low true low
        have place : c.toNat < base64Bytes.length := low
        rw [inside, ok_bind, if_neg small, List.getElem?_eq_getElem place, List.getD_eq_getElem _ _ place]
      · obtain ⟨outside, small⟩ := tableAt_high high
        have nowhere : base64Bytes[c.toNat]? = none := List.getElem?_eq_none high
        rw [outside, error_bind, if_neg small, nowhere]

theorem decodeOf_signed (input : List UInt8) (bufferSize : Nat) (urlSafe : Bool) :
    decodeOf true input bufferSize urlSafe = decode input bufferSize urlSafe := by
  by_cases empty : input = []
  · rw [decodeOf, decode, if_pos empty, if_pos empty]
  · cases checked : checkInputOf true urlSafe input 0 0 with
    | error fault =>
        rw [decodeOf, decode, if_neg empty, if_neg empty, ← checkInputOf_signed, checked]
        rfl
    | ok counted =>
        cases counted with
        | none =>
            rw [decodeOf, decode, if_neg empty, if_neg empty, ← checkInputOf_signed, checked]
            rfl
        | some m =>
            obtain ⟨decodes, -⟩ := @decodeBlocksOf_ok true urlSafe input ⟨[], 0, 0⟩ m checked
            rw [decodeOf, decode, if_neg empty, if_neg empty, ← checkInputOf_signed, checked, ok_bind, ok_bind]
            dsimp only
            rw [decodes]
            rfl

/-! ## The alphabets -/

/-- A character of the common alphabet in the chosen one. -/
def spell (urlSafe : Bool) (c : UInt8) : UInt8 := if urlSafe then urlSafeChar c else c

theorem encode_eq_spell (output : List UInt8) (urlSafe : Bool) :
    (if urlSafe then output.map urlSafeChar else output) = output.map (spell urlSafe) := by
  cases urlSafe with
  | true => rfl
  | false => exact (List.map_id' output).symm

theorem spell_marker (urlSafe : Bool) (c : UInt8) :
    ((spell urlSafe c = charByte '\r' ∨ spell urlSafe c = charByte '\n') ↔ c = charByte '\r' ∨ c = charByte '\n') ∧
      (spell urlSafe c = charByte '=' ↔ c = charByte '=') := by
  unfold spell urlSafeChar
  split
  case isFalse => exact ⟨Iff.rfl, Iff.rfl⟩
  case isTrue =>
      split
      case isTrue plus => subst plus; decide
      case isFalse =>
          split
          case isTrue slash => subst slash; decide
          case isFalse => exact ⟨Iff.rfl, Iff.rfl⟩

/-- A character stands for the same six bits in both alphabets. -/
theorem Digit.spell {c : UInt8} (digit : Digit false c) (urlSafe : Bool) :
    Digit urlSafe (spell urlSafe c) ∧ base64Bytes.getD (Base64.spell urlSafe c).toNat 0 = base64Bytes.getD c.toNat 0 := by
  cases urlSafe with
  | false => exact ⟨digit, rfl⟩
  | true =>
      unfold Base64.spell urlSafeChar
      split
      case isFalse none => exact absurd rfl none
      case isTrue =>
          split
          case isTrue plus =>
              subst plus
              exact ⟨⟨by decide, by decide, by decide⟩, by decide⟩
          case isFalse plus =>
              split
              case isTrue slash =>
                  subst slash
                  exact ⟨⟨by decide, by decide, by decide⟩, by decide⟩
              case isFalse slash => exact ⟨⟨digit.low, digit.value, ⟨plus, slash⟩⟩, rfl⟩

theorem check_padded_spell (isSigned isSigned' urlSafe : Bool) (input : List UInt8) {padding : Nat}
    (padded : padding ≠ 0) (charCount : Nat) :
    checkInputOf isSigned' urlSafe (input.map (spell urlSafe)) padding charCount =
      checkInputOf isSigned false input padding charCount := by
  induction input generalizing padding with
  | nil => rfl
  | cons c rest ih =>
      obtain ⟨lineEnd, pad⟩ := spell_marker urlSafe c
      rw [List.map_cons, checkInputOf, checkInputOf, if_pos padded, if_pos padded]
      simp only [lineEnd, pad, ih padded, ih (Nat.succ_ne_zero padding)]

/-- What passes the check in the common alphabet passes it in both, and stands for the same. -/
theorem check_spell {isSigned : Bool} {input : List UInt8} {charCount m : Nat}
    (checked : checkInputOf isSigned false input 0 charCount = .ok (some m)) (isSigned' urlSafe : Bool) :
    checkInputOf isSigned' urlSafe (input.map (spell urlSafe)) 0 charCount = .ok (some m) ∧
      ∀ decoding, decodeBlocks (input.map (spell urlSafe)) decoding = decodeBlocks input decoding := by
  induction input generalizing charCount with
  | nil => exact ⟨checked, fun _ => rfl⟩
  | cons c rest ih =>
      obtain ⟨isLineEnd, isPad⟩ := spell_marker urlSafe c
      rw [List.map_cons]
      rcases check_some checked with ⟨lineEnd, checked'⟩ | ⟨rfl, rfl⟩ | ⟨digit, checked'⟩
      · obtain ⟨passes, decodes⟩ := ih checked'
        rw [check_lineEnd _ _ (isLineEnd.mpr lineEnd)]
        refine ⟨passes, fun decoding => ?_⟩
        rw [decodeBlocks, if_pos (isLineEnd.mpr lineEnd), decodeBlocks, if_pos lineEnd, decodes]
      · rw [check_pad] at checked
        rw [isPad.mpr rfl, check_pad, check_padded_spell isSigned isSigned' urlSafe rest Nat.one_ne_zero]
        exact ⟨checked, fun _ => rfl⟩
      · obtain ⟨passes, decodes⟩ := ih checked'
        obtain ⟨digit', same⟩ := digit.spell urlSafe
        rw [check_digit _ _ digit']
        refine ⟨passes, fun decoding => ?_⟩
        rw [decodeBlocks, if_neg digit'.not_marker.1, if_neg digit'.not_marker.2, same, decodes, decodeBlocks,
          if_neg digit.not_marker.1, if_neg digit.not_marker.2]

/-! ## The codec -/

theorem length_encodeBlocks (bytes : List UInt8) : (encodeBlocks bytes).length = 4 * ((bytes.length + 2) / 3) := by
  induction bytes using encodeBlocks.induct with
  | case1 b0 b1 b2 rest ih =>
      rw [encodeBlocks]
      simp only [List.length_cons, ih]
      omega
  | case2 b0 b1 => simp [encodeBlocks]
  | case3 b0 => simp [encodeBlocks]
  | case4 => rfl

/-- The output of the encoder is decoded to the bytes that were encoded. -/
theorem decodeOf_encodeBlocks {bytes : List UInt8} (some_ : bytes ≠ []) (isSigned urlSafe : Bool) {bufferSize : Nat}
    (room : bytes.length ≤ bufferSize) :
    decodeOf isSigned ((encodeBlocks bytes).map (spell urlSafe)) bufferSize urlSafe = .ok (.ok bytes, bytes.length) := by
  have count := checkInput_encode bytes 0
  rw [← checkInputOf_signed] at count
  obtain ⟨m, isCount⟩ : ∃ m, 0 + 4 * (bytes.length / 3) + (if bytes.length % 3 = 0 then 0 else bytes.length % 3 + 1) = m :=
    ⟨_, rfl⟩
  rw [isCount] at count
  have tail : m % 4 ≠ 1 := by split at isCount <;> omega
  have isSize : decodedSize m = bytes.length := by
    unfold decodedSize
    split at isCount <;> split <;> omega
  obtain ⟨passes, decodes⟩ := check_spell count isSigned urlSafe
  have spelled : (encodeBlocks bytes).map (spell urlSafe) ≠ [] := by
    rw [Ne, List.map_eq_nil_iff]
    exact encodeBlocks_ne_nil some_
  obtain ⟨-, result⟩ := decodeOf_of_check spelled passes tail bufferSize
  rw [result, isSize, if_neg (Nat.not_lt.mpr room), decodes, decodeBlocks_encode bytes [] 0 0 rfl, List.nil_append]

/-- What a decoder should do with any text: look up only what the table has, write no more than
    the buffer has room for and just what it reports, and where the buffer is too small report the
    size with which it goes well. -/
def DecodesWell (isSigned : Bool) (input : List UInt8) (bufferSize : Nat) (urlSafe : Bool) : Prop :=
  ∃ result size, decodeOf isSigned input bufferSize urlSafe = .ok (result, size) ∧
    (∀ output, result = .ok output → output.length = size ∧ size ≤ bufferSize) ∧
      (result = .error .notEnoughSpace → bufferSize < size ∧
        ∃ output, decodeOf isSigned input size urlSafe = .ok (.ok output, size))

theorem decodesWell_iff {input : List UInt8} (some_ : input ≠ []) (isSigned : Bool) (bufferSize : Nat) (urlSafe : Bool) :
    DecodesWell isSigned input bufferSize urlSafe ↔ ¬(isSigned = true ∧ ReachesHigh urlSafe input) := by
  rw [← check_ok_iff isSigned urlSafe input 0]
  constructor
  · rintro ⟨result, size, decodes, -⟩
    rw [decodeOf, if_neg some_] at decodes
    obtain ⟨checked, isChecked, -⟩ := bind_ok decodes
    exact ⟨checked, isChecked⟩
  · rintro ⟨checked, isChecked⟩
    cases checked with
    | none =>
        have refused : decodeOf isSigned input bufferSize urlSafe = .ok (.error .invalidFormat, 0) := by
          rw [decodeOf, if_neg some_, isChecked]
          rfl
        exact ⟨_, _, refused, fun _ h => (nomatch h), fun h => (nomatch h)⟩
    | some m =>
        by_cases tail : m % 4 = 1
        · have refused : decodeOf isSigned input bufferSize urlSafe = .ok (.error .invalidFormat, 0) := by
            rw [decodeOf, if_neg some_, isChecked, ok_bind]
            exact if_pos tail
          exact ⟨_, _, refused, fun _ h => (nomatch h), fun h => (nomatch h)⟩
        · obtain ⟨length, decodes⟩ := decodeOf_of_check some_ isChecked tail bufferSize
          obtain ⟨-, again⟩ := decodeOf_of_check some_ isChecked tail (decodedSize m)
          rw [if_neg (Nat.lt_irrefl _)] at again
          refine ⟨_, _, decodes, ?_, ?_⟩
          · intro output isOutput
            split at isOutput
            case isTrue => cases isOutput
            case isFalse room =>
                cases isOutput
                exact ⟨length, Nat.not_lt.mp room⟩
          · intro isError
            split at isError
            case isTrue small => exact ⟨small, _, again⟩
            case isFalse => cases isError

/-- Both alphabets and both kinds of `char`. Any bytes, when they are encoded, fill the size that is
    reported, a smaller size is answered with that one, and they are what the text is decoded to.
    The same bytes, when they are decoded as a text, are decoded well unless `char` is signed and
    a byte from 128 on is reached: `c > 127` is then false, and the table is read at a negative
    place. -/
theorem codec_goes_well_iff {bytes : List UInt8} (some_ : bytes ≠ []) (isSigned urlSafe : Bool) (outputSize : Nat) :
    (bytes.length ≤ maxEncodeInputSize →
      ∃ text size, (outputSize < size → encode bytes outputSize urlSafe = (.error .notEnoughSpace, size)) ∧
        (size ≤ outputSize → encode bytes outputSize urlSafe = (.ok text, size)) ∧
          encode bytes size urlSafe = (.ok text, size) ∧ text.length = size ∧
            ∀ bufferSize ≥ bytes.length, decodeOf isSigned text bufferSize urlSafe = .ok (.ok bytes, bytes.length)) ∧
    (DecodesWell isSigned bytes outputSize urlSafe ↔ ¬(isSigned = true ∧ ReachesHigh urlSafe bytes)) := by
  refine ⟨fun fits => ?_, decodesWell_iff some_ isSigned outputSize urlSafe⟩
  have encodes : ∀ room, 4 * ((bytes.length + 2) / 3) ≤ room → encode bytes room urlSafe =
      (.ok ((encodeBlocks bytes).map (spell urlSafe)), 4 * ((bytes.length + 2) / 3)) := by
    intro room enough
    rw [encode, if_neg (Nat.not_lt.mpr fits)]
    dsimp only
    rw [if_neg (by omega), encode_eq_spell]
  refine ⟨_, _, ?_, encodes outputSize, encodes _ le_rfl, ?_, ?_⟩
  · intro small
    rw [encode, if_neg (Nat.not_lt.mpr fits)]
    dsimp only
    rw [if_pos (by omega)]
  · rw [List.length_map, length_encodeBlocks]
  · intro bufferSize room
    exact decodeOf_encodeBlocks some_ isSigned urlSafe room

theorem codec_goes_well_after_padding :
    DecodesWell true [charByte 'A', charByte 'A', charByte '=', 0xFF] 0 false ↔
      ¬(true = true ∧ ReachesHigh false [charByte 'A', charByte 'A', charByte '=', 0xFF]) :=
  (codec_goes_well_iff (List.cons_ne_nil _ _) true false 0).2

/-- A text of one byte 0xFF. -/
theorem decode_high_byte : ¬ ∀ (input : List UInt8) (isSigned : Bool) (bufferSize : Nat) (urlSafe : Bool), input ≠ [] →
    DecodesWell isSigned input bufferSize urlSafe := by
  intro h
  obtain ⟨result, size, decodes, -⟩ := h [0xFF] true 16 false (List.cons_ne_nil _ _)
  exact absurd decodes (by simp [show decodeOf true [0xFF] 16 false = .error .outOfBounds from rfl])

end GoldenGate.Base64
