import GoldenGate.Lib.OnesComplement
import GoldenGate.Protocols.Ipv4Safety
import GoldenGate.Protocols.Ipv4Serializing

/-! # Header codec and checksum

The checksum adds words into 32 bits and folds the carries in twice, which is enough for any packet.
A header that is written with its checksum has a sum of all ones, and any header whose fields are in
range comes back from its bytes.
-/

namespace GoldenGate.Ipv4

open Memory OnesComplement

/-! ## Checksum -/

theorem sumWords_eq {data : List UInt8} {checksum : Nat}
    (small : checksum + (words data).sum < 2 ^ 32) :
    sumWords data checksum = checksum + (words data).sum := by
  fun_induction words data generalizing checksum with
  | case1 hi lo rest ih =>
      rw [List.sum_cons, ← Nat.add_assoc] at small ⊢
      have fits : checksum + (hi.toNat * 256 + lo.toNat) < 2 ^ 32 := (Nat.le_add_right _ _).trans_lt small
      rw [sumWords, Bytes.bigEndian16, Nat.mod_eq_of_lt fits, ih small]
  | case2 b =>
      rw [List.sum_singleton] at small ⊢
      have shifted : b.toNat <<< 8 = b.toNat * 256 := Nat.shiftLeft_eq _ _
      rw [sumWords, shifted, Nat.mod_eq_of_lt small]
  | case3 => rfl

theorem foldCarry_eq (n : Nat) : foldCarry n = fold n := by
  rw [foldCarry, fold, Nat.shiftRight_eq_div_pow]
  exact congrArg (n / 65536 + ·) (Bytes.and_mask n 16)

theorem and_highWord {n : Nat} (small : n < 2 ^ 32) : n &&& 0xFFFF0000 = (n >>> 16) <<< 16 := by
  have mask : 0xFFFF0000 = (2 ^ 16 - 1) <<< 16 := by decide
  rw [mask]
  apply Nat.eq_of_testBit_eq
  intro i
  simp only [Nat.testBit_and, Nat.testBit_shiftLeft, Nat.testBit_shiftRight,
    Nat.testBit_two_pow_sub_one]
  by_cases low : 16 ≤ i
  · have place : 16 + (i - 16) = i := by omega
    rw [place]
    by_cases inside : i - 16 < 16
    · simp [low, inside]
    · have beyond : n.testBit i = false :=
        Nat.testBit_lt_two_pow (small.trans_le (Nat.pow_le_pow_right (by decide) (by omega)))
      simp [beyond]
  · simp [low]

/-- Two folds leave 16 bits. -/
theorem ipv4Checksum_eq {data : List UInt8} (short : data.length ≤ 65535) :
    (ipv4Checksum data).toNat = sum data := by
  have bound := sum_words_le data
  have total : (words data).sum < 2 ^ 31 := by omega
  have summed : sumWords data 0 = (words data).sum := by
    rw [sumWords_eq (by omega), Nat.zero_add]
  have once : fold (words data).sum < 98304 := by
    unfold fold
    omega
  rw [ipv4Checksum, summed, foldCarry_eq, foldCarry_eq, sum_eq, ← wrap_fold]
  generalize fold (words data).sum = n at once ⊢
  rw [and_highWord (by omega), Nat.shiftLeft_eq, Nat.shiftRight_eq_div_pow, UInt16.toNat_ofNat']
  split
  · have twice : fold n < 65536 := by
      unfold fold
      omega
    rw [← wrap_fold n, wrap_of_lt twice, Nat.mod_eq_of_lt twice]
  · have enough : n < 65536 := by omega
    rw [wrap_of_lt enough, Nat.mod_eq_of_lt enough]

theorem words_int16 (value : UInt16) (rest : List UInt8) :
    words (bytesFromInt16Be value ++ rest) = value.toNat :: words rest := by
  have small := value.toNat_lt
  have joined : (UInt8.ofNat (value.toNat >>> 8)).toNat * 256 + (UInt8.ofNat value.toNat).toNat =
      value.toNat := by
    rw [byte_at, UInt8.toNat_ofNat']
    omega
  change _ :: words rest = _
  rw [joined]

/-- The complement of the sum, in the place of a zero word, makes the sum all ones. -/
theorem checksum_complete {front : List UInt8} (even : front.length % 2 = 0) {rest : List UInt8}
    (short : front.length + 2 + rest.length ≤ 65535) :
    ipv4Checksum (front ++ (bytesFromInt16Be (~~~ ipv4Checksum (front ++ ([0, 0] ++ rest))) ++ rest)) =
      0xFFFF := by
  have size (value : UInt16) : (front ++ (bytesFromInt16Be value ++ rest)).length ≤ 65535 := by
    simp only [List.length_append, bytesFromInt16Be, List.length_cons, List.length_nil]
    omega
  have total (value : UInt16) : (words (front ++ (bytesFromInt16Be value ++ rest))).sum =
      (words (front ++ ([0, 0] ++ rest))).sum + value.toNat := by
    rw [words_append even, words_append even, words_int16]
    simp only [List.sum_append, List.sum_cons, words, List.cons_append, List.nil_append]
    simp
    omega
  have zeros : (ipv4Checksum (front ++ ([0, 0] ++ rest))).toNat =
      wrap (words (front ++ ([0, 0] ++ rest))).sum :=
    (ipv4Checksum_eq (size 0)).trans (sum_eq _)
  rw [← UInt16.toNat_inj, ipv4Checksum_eq (size _), sum_eq, total, UInt16.toNat_not, zeros]
  exact wrap_complement

/-! ## Header -/

/-- The fields of an IPv4 header fit their bits. -/
structure PacketHeader.InRange (header : PacketHeader) : Prop where
  version : header.version = 4
  ihl : 5 ≤ header.ihl.toNat ∧ header.ihl.toNat ≤ 15
  dscp : header.dscp.toNat < 2 ^ 6
  ecn : header.ecn.toNat < 2 ^ 2
  flags : header.flags.toNat < 2 ^ 3
  fragmentOffset : header.fragmentOffset.toNat < 2 ^ 13
  options : header.options.length = 4 * (header.ihl.toNat - 5)

/-- Two fields in one byte. -/
theorem toNat_fields {high low : UInt8} {k : Nat} (inside : k < 8) (isHigh : high.toNat < 2 ^ (8 - k))
    (isLow : low.toNat < 2 ^ k) :
    (high <<< UInt8.ofNat k ||| low).toNat = high.toNat * 2 ^ k + low.toNat := by
  have fits : high.toNat * 2 ^ k < 2 ^ 8 := by
    have scaled := (Nat.mul_lt_mul_right (Nat.two_pow_pos k)).mpr isHigh
    rwa [← Nat.pow_add, Nat.sub_add_cancel inside.le] at scaled
  have amount : (UInt8.ofNat k).toNat % 8 = k := by
    rw [UInt8.toNat_ofNat', Nat.mod_mod_of_dvd _ (by decide), Nat.mod_eq_of_lt inside]
  have shifted : (high <<< UInt8.ofNat k).toNat = high.toNat <<< k := by
    rw [UInt8.toNat_shiftLeft, amount, Nat.shiftLeft_eq, Nat.mod_eq_of_lt fits]
  rw [UInt8.toNat_or, shifted, Bytes.shiftLeft_or _ isLow]

/-- The high field comes back by a shift. -/
theorem high_field {high low : UInt8} {k : Nat} (inside : k < 8) (isHigh : high.toNat < 2 ^ (8 - k))
    (isLow : low.toNat < 2 ^ k) : (high <<< UInt8.ofNat k ||| low) >>> UInt8.ofNat k = high := by
  have amount : (UInt8.ofNat k).toNat % 8 = k := by
    rw [UInt8.toNat_ofNat', Nat.mod_mod_of_dvd _ (by decide), Nat.mod_eq_of_lt inside]
  rw [← UInt8.toNat_inj, UInt8.toNat_shiftRight, amount, toNat_fields inside isHigh isLow,
    Nat.shiftRight_eq_div_pow, Nat.mul_comm, Nat.mul_add_div (Nat.two_pow_pos k),
    Nat.div_eq_of_lt isLow, Nat.add_zero]

/-- The low field comes back by a mask. -/
theorem low_field {high low : UInt8} {k : Nat} (inside : k < 8) (isHigh : high.toNat < 2 ^ (8 - k))
    (isLow : low.toNat < 2 ^ k) :
    (high <<< UInt8.ofNat k ||| low) &&& UInt8.ofNat (2 ^ k - 1) = low := by
  have mask : (UInt8.ofNat (2 ^ k - 1)).toNat = 2 ^ k - 1 := by
    have small : 2 ^ k < 2 ^ 8 := Nat.pow_lt_pow_right (by decide) inside
    rw [UInt8.toNat_ofNat']
    exact Nat.mod_eq_of_lt ((Nat.sub_le _ _).trans_lt small)
  rw [← UInt8.toNat_inj, UInt8.toNat_and, mask, toNat_fields inside isHigh isLow, Bytes.and_mask,
    Nat.mul_comm, Nat.mul_add_mod, Nat.mod_eq_of_lt isLow]

/-- The 13 bits of a fragment offset, of which five stand behind the flags. -/
theorem fragment_fields {flags : UInt8} {offset : UInt16} (isFlags : flags.toNat < 2 ^ 3)
    (isOffset : offset.toNat < 2 ^ 13) :
    let b6 := flags <<< 5 ||| UInt8.ofNat ((offset.toNat >>> 8) &&& 0x1F)
    b6 >>> 5 = flags ∧ bytesToInt16Be (b6 &&& 0x1F) (UInt8.ofNat offset.toNat) = offset := by
  have high : (UInt8.ofNat ((offset.toNat >>> 8) &&& 0x1F)).toNat = offset.toNat / 256 := by
    have masked : (offset.toNat >>> 8) &&& 0x1F = (offset.toNat >>> 8) % 32 := Bytes.and_mask _ 5
    rw [masked, Nat.shiftRight_eq_div_pow, UInt8.toNat_ofNat']
    omega
  have small : (UInt8.ofNat ((offset.toNat >>> 8) &&& 0x1F)).toNat < 2 ^ 5 := by
    rw [high]
    omega
  refine ⟨@high_field _ _ 5 (by decide) isFlags small, ?_⟩
  have five : (0x1F : UInt8) = UInt8.ofNat (2 ^ 5 - 1) := rfl
  rw [five, show (5 : UInt8) = UInt8.ofNat 5 from rfl, low_field (by decide) isFlags small,
    ← UInt16.toNat_inj, toNat_bytesToInt16Be, high, UInt8.toNat_ofNat']
  omega

/-- A header comes back from its bytes, with the checksum they have. -/
theorem parse_bytes {header : PacketHeader} (inRange : header.InRange) (checksum : UInt16)
    (rest : List UInt8) :
    PacketHeader.parse (header.bytes checksum ++ rest) =
      .ok (.ok { header with checksum := checksum }) := by
  obtain ⟨version, ihl, dscp, ecn, total, identification, flags, fragment, ttl, protocol, sum, src, dst,
    options⟩ := header
  obtain ⟨rfl, ⟨ihlGe, ihlLe⟩, isDscp, isEcn, isFlags, isFragment, sized⟩ := inRange
  dsimp only at *
  have ihlSmall : ihl.toNat < 2 ^ 4 := by omega
  have isVersion : ((4 : UInt8) <<< 4 ||| ihl) >>> 4 = 4 := @high_field 4 ihl 4 (by decide) (by decide) ihlSmall
  have isIhl : ((4 : UInt8) <<< 4 ||| ihl) &&& 0x0F = ihl := @low_field 4 ihl 4 (by decide) (by decide) ihlSmall
  have masked : ecn &&& 0x03 = ecn := by
    have mask : (ecn &&& 0x03).toNat = ecn.toNat % 4 := (UInt8.toNat_and _ _).trans (Bytes.and_mask _ 2)
    rw [← UInt8.toNat_inj, mask]
    omega
  have backDscp : (dscp <<< 2 ||| ecn) >>> 2 = dscp := @high_field dscp ecn 2 (by decide) isDscp isEcn
  have backEcn : (dscp <<< 2 ||| ecn) &&& 0x03 = ecn := @low_field dscp ecn 2 (by decide) isDscp isEcn
  obtain ⟨backFlags, backFragment⟩ := fragment_fields isFlags isFragment
  have bytes : PacketHeader.bytes
      ⟨4, ihl, dscp, ecn, total, identification, flags, fragment, ttl, protocol, sum, src, dst, options⟩ checksum =
      ((4 : UInt8) <<< 4 ||| ihl) :: (dscp <<< 2 ||| ecn) ::
      (bytesFromInt16Be total ++ bytesFromInt16Be identification ++
        [flags <<< 5 ||| UInt8.ofNat ((fragment.toNat >>> 8) &&& 0x1F), UInt8.ofNat fragment.toNat, ttl, protocol] ++
        bytesFromInt16Be checksum ++ bytesFromInt32Be src ++ bytesFromInt32Be dst ++ options) := by
    have whole : (if ihl > 5 then options.take (4 * (ihl.toNat - 5)) else []) = options := by
      split
      · rw [← sized, List.take_length]
      · next bare =>
          have few : ihl.toNat ≤ 5 := by
            rw [gt_iff_lt, UInt8.lt_iff_toNat_lt] at bare
            exact Nat.not_lt.mp bare
          rw [Nat.sub_eq_zero_of_le few] at sized
          exact (List.length_eq_zero_iff.mp sized).symm
    simp only [PacketHeader.bytes, whole, masked, List.cons_append, List.nil_append]
  rw [bytes]
  have notShort : ¬ ihl < headerMinIhl := by
    rw [UInt8.lt_iff_toNat_lt]
    exact Nat.not_lt.mpr ihlGe
  simp only [PacketHeader.parse, load, bytesFromInt16Be, bytesFromInt32Be, List.cons_append, List.nil_append,
    List.getElem?_cons_zero, List.getElem?_cons_succ, ok_bind, isVersion, isIhl, notShort,
    List.length_cons, List.length_append, baseHeaderSize, pure_ok, false_or, List.drop_succ_cons, List.drop_zero]
  rw [if_neg (by omega), if_neg (by simp), if_neg (by omega)]
  have back : (options ++ rest).take ((ihl.toNat - 5) * 4) = options := by
    rw [Nat.mul_comm, ← sized, List.take_left]
  rw [backDscp, backEcn, backFlags, backFragment, back, bytesToInt16Be_from, bytesToInt16Be_from, bytesToInt16Be_from,
    bytesToInt32Be_from, bytesToInt32Be_from]

/-- A header that is written into a buffer. -/
theorem serialize_spec {header : PacketHeader} (inRange : header.InRange) {buffer : List UInt8} {size : Nat}
    (room : 4 * header.ihl.toNat ≤ size) (sized : size ≤ buffer.length) (compute : Bool) :
    header.serialize buffer size compute =
      .ok (.ok (header.bytes (if compute then ~~~ ipv4Checksum (header.bytes 0) else header.checksum) ++
        buffer.drop (4 * header.ihl.toNat))) := by
  obtain ⟨ihlGe, ihlLe⟩ := inRange.ihl
  have inside : ¬ (header.ihl < headerMinIhl ∨ header.ihl > headerMaxIhl) := by
    rw [gt_iff_lt, UInt8.lt_iff_toNat_lt, UInt8.lt_iff_toNat_lt]
    simp only [headerMinIhl, headerMaxIhl, UInt8.reduceToNat]
    omega
  have length := length_bytes header
    (if compute then ~~~ ipv4Checksum (header.bytes 0) else header.checksum) inRange.options ihlGe
  rw [PacketHeader.serialize, if_neg inside, if_neg (by omega)]
  simp only [store, length, Nat.zero_add, List.take_zero, List.nil_append]
  rw [if_pos (by omega)]
  rfl

/-- The header with its checksum is all ones. -/
theorem header_complete {header : PacketHeader} (inRange : header.InRange) :
    ipv4Checksum (header.bytes (~~~ ipv4Checksum (header.bytes 0))) = 0xFFFF := by
  obtain ⟨ihlGe, ihlLe⟩ := inRange.ihl
  let front := [(header.version <<< 4) ||| header.ihl, (header.dscp <<< 2) ||| (header.ecn &&& 0x03)] ++
    bytesFromInt16Be header.totalLength ++ bytesFromInt16Be header.identification ++
    [(header.flags <<< 5) ||| UInt8.ofNat ((header.fragmentOffset.toNat >>> 8) &&& 0x1F),
      UInt8.ofNat header.fragmentOffset.toNat, header.ttl, header.protocol]
  let rest := bytesFromInt32Be header.srcAddress ++ (bytesFromInt32Be header.dstAddress ++
    (if header.ihl > 5 then header.options.take (4 * (header.ihl.toNat - 5)) else []))
  have split (checksum : UInt16) : header.bytes checksum = front ++ (bytesFromInt16Be checksum ++ rest) := by
    simp only [PacketHeader.bytes, front, rest, List.append_assoc]
  have length := length_bytes header 0 inRange.options ihlGe
  have small : front.length + 2 + rest.length ≤ 65535 := by
    rw [split] at length
    simp only [bytesFromInt16Be, List.length_append, List.length_cons, List.length_nil] at length
    omega
  have ten : front.length = 10 := rfl
  rw [split, split]
  exact checksum_complete (by rw [ten]) small

end GoldenGate.Ipv4
