import GoldenGate.Lib.Bytes

/-! # Integers in byte order

The big-endian conversions of `gg_utils.c`.
-/

namespace GoldenGate

/-- `GG_BytesFromInt16Be`. -/
def bytesFromInt16Be (value : UInt16) : List UInt8 :=
  [UInt8.ofNat (value.toNat >>> 8), UInt8.ofNat value.toNat]

/-- `GG_BytesFromInt32Be`. -/
def bytesFromInt32Be (value : UInt32) : List UInt8 :=
  [UInt8.ofNat (value.toNat >>> 24), UInt8.ofNat (value.toNat >>> 16),
    UInt8.ofNat (value.toNat >>> 8), UInt8.ofNat value.toNat]

/-- `GG_BytesToInt16Be`. -/
def bytesToInt16Be (hi lo : UInt8) : UInt16 := UInt16.ofNat ((hi.toNat <<< 8) ||| lo.toNat)

/-- `GG_BytesToInt32Be`. -/
def bytesToInt32Be (b0 b1 b2 b3 : UInt8) : UInt32 :=
  UInt32.ofNat ((((((b0.toNat <<< 8) ||| b1.toNat) <<< 8) ||| b2.toNat) <<< 8) ||| b3.toNat)

/-- `GG_BytesToInt64Be`. -/
def bytesToInt64Be (b0 b1 b2 b3 b4 b5 b6 b7 : UInt8) : UInt64 :=
  UInt64.ofNat ((((((((((((((b0.toNat <<< 8) ||| b1.toNat) <<< 8) ||| b2.toNat) <<< 8) ||| b3.toNat) <<< 8)
    ||| b4.toNat) <<< 8) ||| b5.toNat) <<< 8) ||| b6.toNat) <<< 8) ||| b7.toNat)

/-- A byte taken out of a number. -/
theorem byte_at (value k : Nat) :
    (UInt8.ofNat (value >>> k)).toNat = value / 2 ^ k % 256 := by
  rw [UInt8.toNat_ofNat', Nat.shiftRight_eq_div_pow]

@[simp] theorem toNat_bytesToInt16Be (hi lo : UInt8) :
    (bytesToInt16Be hi lo).toNat = hi.toNat * 256 + lo.toNat := by
  have high := hi.toNat_lt
  have low := lo.toNat_lt
  rw [bytesToInt16Be, Bytes.bigEndian16, UInt16.toNat_ofNat']
  omega

theorem toNat_bytesToInt32Be (b0 b1 b2 b3 : UInt8) :
    (bytesToInt32Be b0 b1 b2 b3).toNat =
      ((b0.toNat * 256 + b1.toNat) * 256 + b2.toNat) * 256 + b3.toNat := by
  have small0 := b0.toNat_lt
  have small1 := b1.toNat_lt
  have small2 := b2.toNat_lt
  have small3 := b3.toNat_lt
  rw [bytesToInt32Be, Bytes.shiftLeft_or _ small3, Bytes.shiftLeft_or _ small2,
    Bytes.bigEndian16, UInt32.toNat_ofNat']
  omega

theorem toNat_bytesToInt64Be (b0 b1 b2 b3 b4 b5 b6 b7 : UInt8) :
    (bytesToInt64Be b0 b1 b2 b3 b4 b5 b6 b7).toNat =
      ((((((b0.toNat * 256 + b1.toNat) * 256 + b2.toNat) * 256 + b3.toNat) * 256 + b4.toNat) * 256 + b5.toNat) * 256 +
        b6.toNat) * 256 + b7.toNat := by
  have small0 := b0.toNat_lt
  have small1 := b1.toNat_lt
  have small2 := b2.toNat_lt
  have small3 := b3.toNat_lt
  have small4 := b4.toNat_lt
  have small5 := b5.toNat_lt
  have small6 := b6.toNat_lt
  have small7 := b7.toNat_lt
  rw [bytesToInt64Be, Bytes.shiftLeft_or _ small7, Bytes.shiftLeft_or _ small6, Bytes.shiftLeft_or _ small5,
    Bytes.shiftLeft_or _ small4, Bytes.shiftLeft_or _ small3, Bytes.shiftLeft_or _ small2, Bytes.bigEndian16,
    UInt64.toNat_ofNat']
  omega

theorem bytesFromInt16Be_to (hi lo : UInt8) :
    bytesFromInt16Be (bytesToInt16Be hi lo) = [hi, lo] := by
  have low := lo.toNat_lt
  have high := hi.toNat_lt
  simp only [bytesFromInt16Be, toNat_bytesToInt16Be, List.cons.injEq, and_true,
    ← UInt8.toNat_inj, UInt8.toNat_ofNat']
  omega

theorem bytesToInt16Be_from (value : UInt16) :
    bytesToInt16Be (UInt8.ofNat (value.toNat >>> 8)) (UInt8.ofNat value.toNat) = value := by
  have small := value.toNat_lt
  rw [← UInt16.toNat_inj, toNat_bytesToInt16Be, byte_at, UInt8.toNat_ofNat']
  omega

theorem bytesToInt32Be_from (value : UInt32) :
    bytesToInt32Be (UInt8.ofNat (value.toNat >>> 24)) (UInt8.ofNat (value.toNat >>> 16))
      (UInt8.ofNat (value.toNat >>> 8)) (UInt8.ofNat value.toNat) = value := by
  have small := value.toNat_lt
  rw [← UInt32.toNat_inj, toNat_bytesToInt32Be, byte_at, byte_at, byte_at, UInt8.toNat_ofNat']
  omega

theorem bytesFromInt32Be_to (b0 b1 b2 b3 : UInt8) :
    bytesFromInt32Be (bytesToInt32Be b0 b1 b2 b3) = [b0, b1, b2, b3] := by
  have small0 := b0.toNat_lt
  have small1 := b1.toNat_lt
  have small2 := b2.toNat_lt
  have small3 := b3.toNat_lt
  simp only [bytesFromInt32Be, toNat_bytesToInt32Be, List.cons.injEq, and_true,
    ← UInt8.toNat_inj, UInt8.toNat_ofNat']
  omega

end GoldenGate
