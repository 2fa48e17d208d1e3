import GoldenGate.Common.Result
import GoldenGate.Lib.Bytes
import GoldenGate.Lib.Memory

/-! # Base64

The embedding of the codec in `gg_utils.c`, and its round trip. Characters are bytes; `char`
is signed, so that a character from 128 on is no place of the table.
-/

namespace GoldenGate.Base64

open Memory

/-- `GG_Base64_Bytes`. -/
def base64Bytes : List Int :=
  [ -1, -1, -1, -1, -1, -1, -1, -1, -1, -1, -1, -1, -1, -1, -1, -1,
    -1, -1, -1, -1, -1, -1, -1, -1, -1, -1, -1, -1, -1, -1, -1, -1,
    -1, -1, -1, -1, -1, -1, -1, -1, -1, -1, -1, 0x3E, -1, 0x3E, -1, 0x3F,
    0x34, 0x35, 0x36, 0x37, 0x38, 0x39, 0x3A, 0x3B, 0x3C, 0x3D, -1, -1, -1, -1, -1, -1,
    -1, 0x00, 0x01, 0x02, 0x03, 0x04, 0x05, 0x06, 0x07, 0x08, 0x09, 0x0A, 0x0B, 0x0C, 0x0D, 0x0E,
    0x0F, 0x10, 0x11, 0x12, 0x13, 0x14, 0x15, 0x16, 0x17, 0x18, 0x19, -1, -1, -1, -1, 0x3F,
    -1, 0x1A, 0x1B, 0x1C, 0x1D, 0x1E, 0x1F, 0x20, 0x21, 0x22, 0x23, 0x24, 0x25, 0x26, 0x27, 0x28,
    0x29, 0x2A, 0x2B, 0x2C, 0x2D, 0x2E, 0x2F, 0x30, 0x31, 0x32, 0x33, -1, -1, -1, -1, -1 ]

def charByte (c : Char) : UInt8 := UInt8.ofNat c.toNat

/-- `GG_Base64_Chars`. -/
def base64Chars : List UInt8 :=
  "ABCDEFGHIJKLMNOPQRSTUVWXYZabcdefghijklmnopqrstuvwxyz0123456789+/".toList.map charByte

/-- `GG_Base64_Chars[v]`, for six bits. -/
def char64 (v : Nat) : UInt8 := base64Chars.getD v 0

def maxEncodeInputSize : Nat := 3 * ((2 ^ 64 - 1) / 4)

/-! ## Encoding -/

/-- The blocks of `GG_Base64_Encode`, and the tail. -/
def encodeBlocks : List UInt8 → List UInt8
  | b0 :: b1 :: b2 :: rest =>
      char64 ((b0.toNat >>> 2) &&& 0x3F) ::
      char64 (((b0.toNat &&& 0x03) <<< 4) ||| ((b1.toNat >>> 4) &&& 0x0F)) ::
      char64 (((b1.toNat &&& 0x0F) <<< 2) ||| ((b2.toNat >>> 6) &&& 0x03)) ::
      char64 (b2.toNat &&& 0x3F) :: encodeBlocks rest
  | [b0, b1] =>
      [ char64 ((b0.toNat >>> 2) &&& 0x3F),
        char64 (((b0.toNat &&& 0x03) <<< 4) ||| ((b1.toNat >>> 4) &&& 0x0F)),
        char64 ((b1.toNat &&& 0x0F) <<< 2),
        charByte '=' ]
  | [b0] =>
      [ char64 ((b0.toNat >>> 2) &&& 0x3F),
        char64 ((b0.toNat &&& 0x03) <<< 4),
        charByte '=',
        charByte '=' ]
  | [] => []

/-- The url safe remapping. -/
def urlSafeChar (c : UInt8) : UInt8 :=
  if c = charByte '+' then charByte '-' else if c = charByte '/' then charByte '_' else c

/-- `GG_Base64_Encode` into a buffer of `outputSize` bytes: the output, and the new size. -/
def encode (input : List UInt8) (outputSize : Nat) (urlSafe : Bool) : Except Error (List UInt8) × Nat :=
  if input.length > maxEncodeInputSize then (.error .invalidParameters, outputSize)
  else
    let blocksNeeded := (input.length + 2) / 3
    if outputSize / 4 < blocksNeeded then (.error .notEnoughSpace, 4 * blocksNeeded)
    else
      let output := encodeBlocks input
      (.ok (if urlSafe then output.map urlSafeChar else output), 4 * blocksNeeded)

/-! ## Decoding -/

/-- The check of the input in `GG_Base64_Decode`: the number of characters, if all is well. -/
def checkInput (urlSafe : Bool) : List UInt8 → Nat → Nat → Access (Option Nat)
  | [], _, charCount => .ok (some charCount)
  | c :: rest, padding, charCount =>
      if c = charByte '\r' ∨ c = charByte '\n' then checkInput urlSafe rest padding charCount
      else if c = charByte '=' then
        if padding + 1 > 2 then .ok none else checkInput urlSafe rest (padding + 1) charCount
      else if padding ≠ 0 then .ok none
      else if urlSafe ∧ (c = charByte '+' ∨ c = charByte '/') then .ok none
      else if ¬ urlSafe ∧ (c = charByte '-' ∨ c = charByte '_') then .ok none
      else
        match base64Bytes[c.toNat]? with
        | none => .error .outOfBounds
        | some v => if v < 0 then .ok none else checkInput urlSafe rest padding (charCount + 1)

/-- Where the loop over the blocks is. -/
structure Decoding where
  output : List UInt8
  accumulator : UInt32
  charCount : Nat
  deriving Repr, DecidableEq

/-- Six more bits, and three bytes when a block is full. -/
def Decoding.push (self : Decoding) (v : Int) : Decoding :=
  let accumulator := (self.accumulator <<< 6) ||| UInt32.ofNat v.toNat
  let charCount := self.charCount + 1
  { output :=
      if charCount % 4 = 0 then
        self.output ++ [UInt8.ofNat (accumulator.toNat >>> 16), UInt8.ofNat (accumulator.toNat >>> 8),
          UInt8.ofNat accumulator.toNat]
      else self.output
    accumulator := accumulator
    charCount := charCount }

def decodeBlocks : List UInt8 → Decoding → Decoding
  | [], decoding => decoding
  | c :: rest, decoding =>
      if c = charByte '\r' ∨ c = charByte '\n' then decodeBlocks rest decoding
      else if c = charByte '=' then decoding
      else decodeBlocks rest (decoding.push (base64Bytes.getD c.toNat 0))

/-- The output with the tail, if any. -/
def Decoding.finish (self : Decoding) : List UInt8 :=
  if self.charCount % 4 = 3 then
    self.output ++ [UInt8.ofNat (self.accumulator.toNat >>> 10), UInt8.ofNat (self.accumulator.toNat >>> 2)]
  else if self.charCount % 4 ≥ 2 then self.output ++ [UInt8.ofNat (self.accumulator.toNat >>> 4)]
  else self.output

/-- `GG_Base64_Decode` into a buffer of `bufferSize` bytes: the output, and the new size. An
    input size of 0 asks for the length of the string, which is not in sight here. -/
def decode (input : List UInt8) (bufferSize : Nat) (urlSafe : Bool) :
    Access (Except Error (List UInt8) × Nat) := do
  if input = [] then .error .outOfBounds
  else
    match ← checkInput urlSafe input 0 0 with
    | none => return (.error .invalidFormat, 0)
    | some charCount =>
        if charCount % 4 = 1 then return (.error .invalidFormat, 0)
        else
          let outputSize := 3 * (charCount / 4) + if charCount % 4 = 0 then 0 else charCount % 4 - 1
          if bufferSize < outputSize then return (.error .notEnoughSpace, outputSize)
          else if outputSize = 0 then return (.ok [], 0)
          else return (.ok (decodeBlocks input ⟨[], 0, 0⟩).finish, outputSize)

/-! ## The alphabet -/

theorem base64Chars_eq : base64Chars =
    [ 65, 66, 67, 68, 69, 70, 71, 72, 73, 74, 75, 76, 77, 78, 79, 80, 81, 82, 83, 84, 85, 86, 87, 88, 89, 90,
      97, 98, 99, 100, 101, 102, 103, 104, 105, 106, 107, 108, 109, 110, 111, 112, 113, 114, 115, 116, 117, 118, 119,
      120, 121, 122, 48, 49, 50, 51, 52, 53, 54, 55, 56, 57, 43, 47 ] := by
  decide +kernel

theorem alphabet : ∀ v : Fin 64, base64Bytes[(char64 v).toNat]? = some (v : Int) ∧
    char64 v ≠ charByte '\r' ∧ char64 v ≠ charByte '\n' ∧ char64 v ≠ charByte '=' ∧
      char64 v ≠ charByte '-' ∧ char64 v ≠ charByte '_' := by
  simp only [char64, base64Chars_eq]
  decide +kernel

theorem checkInput_char {v : Nat} (small : v < 64) (rest : List UInt8) (charCount : Nat) :
    checkInput false (char64 v :: rest) 0 charCount = checkInput false rest 0 (charCount + 1) := by
  obtain ⟨value, cr, lf, pad, minus, under⟩ := alphabet ⟨v, small⟩
  simp only at value cr lf pad minus under
  rw [checkInput]
  simp [cr, lf, pad, minus, under, value]

theorem checkInput_pad {padding : Nat} (few : padding < 2) (rest : List UInt8) (charCount : Nat) :
    checkInput false (charByte '=' :: rest) padding charCount = checkInput false rest (padding + 1) charCount := by
  rw [checkInput, if_neg (by decide), if_pos rfl, if_neg (by omega)]

theorem decodeBlocks_char {v : Nat} (small : v < 64) (rest : List UInt8) (decoding : Decoding) :
    decodeBlocks (char64 v :: rest) decoding = decodeBlocks rest (decoding.push v) := by
  obtain ⟨value, cr, lf, pad, -, -⟩ := alphabet ⟨v, small⟩
  simp only at value cr lf pad
  rw [decodeBlocks, if_neg (by simp [cr, lf]), if_neg pad, List.getD_eq_getElem?_getD, value]
  rfl

/-! ## The round trip -/

section Fields

variable (b : UInt8)

theorem upper_six : (b.toNat >>> 2) &&& 0x3F = b.toNat / 4 := by
  have small := b.toNat_lt
  refine (Bytes.and_mask (b.toNat >>> 2) 6).trans ?_
  rw [Nat.shiftRight_eq_div_pow]
  omega

theorem lower_six : b.toNat &&& 0x3F = b.toNat % 64 := Bytes.and_mask _ 6

theorem lower_two : b.toNat &&& 0x03 = b.toNat % 4 := Bytes.and_mask _ 2

end Fields

/-- The four fields of a block. -/
theorem encodeBlocks_block (b0 b1 b2 : UInt8) (rest : List UInt8) :
    encodeBlocks (b0 :: b1 :: b2 :: rest) =
      char64 (b0.toNat / 4) :: char64 (b0.toNat % 4 * 16 + b1.toNat / 16) ::
        char64 (b1.toNat % 16 * 4 + b2.toNat / 64) :: char64 (b2.toNat % 64) :: encodeBlocks rest := by
  have high := b1.toNat_lt
  have top := b2.toNat_lt
  rw [encodeBlocks, upper_six, lower_two, Bytes.high_nibble, Bytes.low_nibble, Bytes.top_bits, lower_six,
    @Bytes.shiftLeft_or _ _ 4 (by omega), @Bytes.shiftLeft_or _ _ 2 (by omega)]
  rfl

theorem encodeBlocks_two (b0 b1 : UInt8) :
    encodeBlocks [b0, b1] =
      [char64 (b0.toNat / 4), char64 (b0.toNat % 4 * 16 + b1.toNat / 16), char64 (b1.toNat % 16 * 4), charByte '='] := by
  have high := b1.toNat_lt
  rw [encodeBlocks, upper_six, lower_two, Bytes.high_nibble, Bytes.low_nibble,
    @Bytes.shiftLeft_or _ _ 4 (by omega), Nat.shiftLeft_eq]
  rfl

theorem encodeBlocks_one (b0 : UInt8) :
    encodeBlocks [b0] = [char64 (b0.toNat / 4), char64 (b0.toNat % 4 * 16), charByte '=', charByte '='] := by
  rw [encodeBlocks, upper_six, lower_two, Nat.shiftLeft_eq]

/-- A block of characters is counted, and a tail as the characters before its padding. -/
theorem checkInput_encode (bytes : List UInt8) (charCount : Nat) :
    checkInput false (encodeBlocks bytes) 0 charCount =
      .ok (some (charCount + 4 * (bytes.length / 3) + if bytes.length % 3 = 0 then 0 else bytes.length % 3 + 1)) := by
  induction bytes using encodeBlocks.induct generalizing charCount with
  | case1 b0 b1 b2 rest ih =>
      have small0 := b0.toNat_lt
      have small1 := b1.toNat_lt
      have small2 := b2.toNat_lt
      rw [encodeBlocks_block, checkInput_char (by omega), checkInput_char (by omega), checkInput_char (by omega),
        checkInput_char (by omega), ih]
      simp only [List.length_cons, Except.ok.injEq, Option.some.injEq]
      have third : (rest.length + 1 + 1 + 1) / 3 = rest.length / 3 + 1 := by omega
      have same : (rest.length + 1 + 1 + 1) % 3 = rest.length % 3 := by omega
      rw [third, same]
      omega
  | case2 b0 b1 =>
      have small0 := b0.toNat_lt
      have small1 := b1.toNat_lt
      rw [encodeBlocks_two, checkInput_char (by omega), checkInput_char (by omega), checkInput_char (by omega),
        checkInput_pad (by omega), checkInput]
      simp
  | case3 b0 =>
      have small0 := b0.toNat_lt
      rw [encodeBlocks_one, checkInput_char (by omega), checkInput_char (by omega),
        checkInput_pad (by omega), checkInput_pad (by omega), checkInput]
      simp
  | case4 => rfl

theorem accumulator_push (accumulator : UInt32) {v : Nat} (small : v < 64) :
    ((accumulator <<< 6) ||| UInt32.ofNat v).toNat = (accumulator.toNat * 64 + v) % 2 ^ 32 := by
  have bound := accumulator.toNat_lt
  have word : (UInt32.ofNat v).toNat = v := by rw [UInt32.toNat_ofNat']; omega
  have shifted : (accumulator <<< 6).toNat = (accumulator.toNat % 2 ^ 26) <<< 6 := by
    rw [UInt32.toNat_shiftLeft, Nat.shiftLeft_eq, Nat.shiftLeft_eq]
    simp
    omega
  rw [UInt32.toNat_or, word, shifted, @Bytes.shiftLeft_or _ _ 6 small]
  omega

/-- Within a block nothing is written. -/
theorem push_within (output : List UInt8) (accumulator : UInt32) (charCount v : Nat)
    (inside : (charCount + 1) % 4 ≠ 0) :
    (Decoding.mk output accumulator charCount).push v =
      ⟨output, (accumulator <<< 6) ||| UInt32.ofNat v, charCount + 1⟩ := by
  rw [Decoding.push]
  dsimp only
  rw [if_neg inside, Int.toNat_natCast]

/-- Three bytes of a full accumulator. -/
theorem push_full (output : List UInt8) (accumulator : UInt32) (charCount : Nat) {v : Nat} (small : v < 64)
    (full : (charCount + 1) % 4 = 0) :
    (Decoding.mk output accumulator charCount).push v =
      ⟨output ++ [UInt8.ofNat ((accumulator.toNat * 64 + v) % 2 ^ 32 / 2 ^ 16),
          UInt8.ofNat ((accumulator.toNat * 64 + v) % 2 ^ 32 / 2 ^ 8),
          UInt8.ofNat ((accumulator.toNat * 64 + v) % 2 ^ 32)],
        (accumulator <<< 6) ||| UInt32.ofNat v, charCount + 1⟩ := by
  rw [Decoding.push]
  dsimp only
  rw [if_pos full, Int.toNat_natCast, accumulator_push accumulator small, Nat.shiftRight_eq_div_pow,
    Nat.shiftRight_eq_div_pow]

theorem byte_ext (b : UInt8) {n : Nat} (h : n % 256 = b.toNat) : UInt8.ofNat n = b := by
  rw [← UInt8.toNat_inj, UInt8.toNat_ofNat']
  exact h

/-- Four characters give back the three bytes of their block. -/
theorem decodeBlocks_block (b0 b1 b2 : UInt8) (rest output : List UInt8) (accumulator : UInt32) (charCount : Nat)
    (start : charCount % 4 = 0) :
    ∃ accumulator', decodeBlocks (encodeBlocks (b0 :: b1 :: b2 :: rest)) ⟨output, accumulator, charCount⟩ =
      decodeBlocks (encodeBlocks rest) ⟨output ++ [b0, b1, b2], accumulator', charCount + 4⟩ := by
  have small0 := b0.toNat_lt
  have small1 := b1.toNat_lt
  have small2 := b2.toNat_lt
  rw [encodeBlocks_block, decodeBlocks_char (by omega), decodeBlocks_char (by omega), decodeBlocks_char (by omega),
    decodeBlocks_char (by omega), push_within output accumulator charCount _ (by omega),
    push_within output _ (charCount + 1) _ (by omega), push_within output _ (charCount + 1 + 1) _ (by omega),
    push_full output _ (charCount + 1 + 1 + 1) (by omega) (by omega), accumulator_push _ (by omega),
    accumulator_push _ (by omega), accumulator_push _ (by omega), byte_ext b0 (by omega), byte_ext b1 (by omega),
    byte_ext b2 (by omega)]
  exact ⟨_, rfl⟩

/-- What was encoded comes out again. -/
theorem decodeBlocks_encode (bytes output : List UInt8) (accumulator : UInt32) (charCount : Nat)
    (start : charCount % 4 = 0) :
    (decodeBlocks (encodeBlocks bytes) ⟨output, accumulator, charCount⟩).finish = output ++ bytes := by
  induction bytes using encodeBlocks.induct generalizing output accumulator charCount with
  | case1 b0 b1 b2 rest ih =>
      obtain ⟨accumulator', block⟩ := decodeBlocks_block b0 b1 b2 rest output accumulator charCount start
      rw [block, ih _ _ _ (by omega), List.append_assoc]
      rfl
  | case2 b0 b1 =>
      have small0 := b0.toNat_lt
      have small1 := b1.toNat_lt
      rw [encodeBlocks_two, decodeBlocks_char (by omega), decodeBlocks_char (by omega), decodeBlocks_char (by omega),
        push_within output accumulator charCount _ (by omega), push_within output _ (charCount + 1) _ (by omega),
        push_within output _ (charCount + 1 + 1) _ (by omega), decodeBlocks, if_neg (by decide), if_pos rfl, Decoding.finish]
      dsimp only
      rw [if_pos (by omega), accumulator_push _ (by omega), accumulator_push _ (by omega),
        accumulator_push _ (by omega), Nat.shiftRight_eq_div_pow, Nat.shiftRight_eq_div_pow, byte_ext b0 (by omega),
        byte_ext b1 (by omega)]
  | case3 b0 =>
      have small0 := b0.toNat_lt
      rw [encodeBlocks_one, decodeBlocks_char (by omega), decodeBlocks_char (by omega),
        push_within output accumulator charCount _ (by omega), push_within output _ (charCount + 1) _ (by omega),
        decodeBlocks, if_neg (by decide), if_pos rfl,
        Decoding.finish]
      dsimp only
      rw [if_neg (by omega), if_pos (by omega), accumulator_push _ (by omega), accumulator_push _ (by omega),
        Nat.shiftRight_eq_div_pow, byte_ext b0 (by omega)]
  | case4 =>
      rw [encodeBlocks, decodeBlocks, Decoding.finish, List.append_nil]
      dsimp only
      rw [if_neg (by omega), if_neg (by omega)]

theorem encodeBlocks_ne_nil {bytes : List UInt8} (h : bytes ≠ []) : encodeBlocks bytes ≠ [] := by
  induction bytes using encodeBlocks.induct with
  | case1 b0 b1 b2 rest ih => rw [encodeBlocks]; exact List.cons_ne_nil _ _
  | case2 b0 b1 => rw [encodeBlocks]; exact List.cons_ne_nil _ _
  | case3 b0 => rw [encodeBlocks]; exact List.cons_ne_nil _ _
  | case4 => exact absurd rfl h

/-- Decoding asks for the size of what was encoded, and gives it back in a buffer of that size. -/
theorem decode_encode {bytes : List UInt8} (some_ : bytes ≠ []) (bufferSize : Nat) :
    decode (encodeBlocks bytes) bufferSize false =
      .ok (if bufferSize < bytes.length then .error .notEnoughSpace else .ok bytes, bytes.length) := by
  have length := List.length_pos_iff.mpr some_
  have count := checkInput_encode bytes 0
  -- the size for the characters that were counted
  have size : ∀ n : Nat, n = 0 + 4 * (bytes.length / 3) + (if bytes.length % 3 = 0 then 0 else bytes.length % 3 + 1) →
      n % 4 ≠ 1 ∧ (3 * (n / 4) + if n % 4 = 0 then 0 else n % 4 - 1) = bytes.length := by
    intro n h
    constructor <;> split_ifs at h ⊢ <;> omega
  obtain ⟨tail, size⟩ := size _ rfl
  rw [decode, if_neg (encodeBlocks_ne_nil some_), count, ok_bind]
  dsimp only
  rw [if_neg tail, size]
  by_cases small : bufferSize < bytes.length
  · rw [if_pos small, if_pos small]
    rfl
  · rw [if_neg small, if_neg small, if_neg (by omega), decodeBlocks_encode bytes [] 0 0 rfl]
    rfl

theorem encode_ok {bytes : List UInt8} (fits : bytes.length ≤ maxEncodeInputSize) (outputSize : Nat) :
    encode bytes outputSize false =
      (if outputSize / 4 < (bytes.length + 2) / 3 then .error .notEnoughSpace else .ok (encodeBlocks bytes),
        4 * ((bytes.length + 2) / 3)) := by
  rw [encode, if_neg (by omega)]
  dsimp only
  by_cases small : outputSize / 4 < (bytes.length + 2) / 3
  · rw [if_pos small, if_pos small]
  · rw [if_neg small, if_neg small]
    rfl

end GoldenGate.Base64
