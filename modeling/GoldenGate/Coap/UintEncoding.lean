import GoldenGate.Coap.RoundTrip

/-! # The encoding of integers

A `UINT` option is as many bytes, most significant first, as its length says. The length is chosen
by comparing the value with bounds that are one too small, so that the largest value of one, two or
three bytes gets a byte more than it needs. The decoder takes any number of bytes.
-/

namespace GoldenGate.Coap

open Memory

/-- The bytes that `GG_CoapMessage_SerializeOptions` writes for a `UINT` value. -/
def encodeUint (value : UInt32) : Access (List UInt8) := do
  let length ← optionLength (.uint value)
  match valueSource length (.uint value) with
  | some source => readBytes source length
  | none => return []

/-- The number that bytes stand for, the most significant byte first. -/
def bigEndian (bytes : List UInt8) : Nat := bytes.foldl (fun n b => n * 256 + b.toNat) 0

/-- The bytes stand for the value, do not start with a zero, and no others that stand for it are
    fewer. -/
structure Shortest (value : UInt32) (bytes : List UInt8) : Prop where
  stands : bigEndian bytes = value.toNat
  noLeadingZero : bytes.head? ≠ some 0
  fewest : ∀ others, bigEndian others = value.toNat → bytes.length ≤ others.length

/-- The value is written with the fewest bytes, and wherever they are read, under the number of a
    `UINT` option, the value comes back. -/
def EncodesShortest (value : UInt32) : Prop :=
  ∃ bytes, encodeUint value = .ok bytes ∧ Shortest value bytes ∧
    ∀ number pre rest, optionType number = .uint →
      optionValue (pre ++ (bytes ++ rest)) number pre.length bytes.length = .ok (.uint value)

theorem encodeUint_eq (value : UInt32) : encodeUint value = .ok (wireValue (.uint value)) := by
  unfold encodeUint
  rw [@optionLength_spec (.uint value) trivial, ok_bind, length_uint]
  change readBytes (wireValue (.uint value)) (uintLength value) = _
  rw [← length_uint]
  exact readBytes_front List.prefix_rfl

theorem bigEndian_append (bytes : List UInt8) (b : UInt8) :
    bigEndian (bytes ++ [b]) = bigEndian bytes * 256 + b.toNat := by
  simp [bigEndian]

theorem bigEndian_lt (bytes : List UInt8) : bigEndian bytes < 256 ^ bytes.length := by
  induction bytes using List.reverseRecOn with
  | nil => exact Nat.one_pos
  | append_singleton bytes b ih =>
      have byte := b.toNat_lt
      rw [bigEndian_append, List.length_append, List.length_singleton, Nat.pow_succ]
      omega

/-- A number that is too large for one byte less needs them all. -/
theorem fewest_of_large {bytes : List UInt8} {value : UInt32}
    (large : bytes = [] ∨ 256 ^ (bytes.length - 1) ≤ value.toNat) :
    ∀ others, bigEndian others = value.toNat → bytes.length ≤ others.length := by
  intro others stands
  cases large with
  | inl isEmpty => rw [isEmpty]; exact Nat.zero_le _
  | inr large =>
      have below : 256 ^ (bytes.length - 1) < 256 ^ others.length := by
        rw [← stands] at large
        exact large.trans_lt (bigEndian_lt others)
      have fewer := (Nat.pow_lt_pow_iff_right (show 1 < 256 by decide)).mp below
      omega

theorem ofNat_ne_zero {n : Nat} (nonzero : n % 256 ≠ 0) : UInt8.ofNat n ≠ 0 := by
  intro zero
  have same := congrArg UInt8.toNat zero
  rw [UInt8.toNat_ofNat'] at same
  exact nonzero same

/-- The chain of comparisons picks the fewest bytes, except at its bounds. -/
theorem wireValue_shortest {value : UInt32}
    (notBound : value ≠ 0xFF ∧ value ≠ 0xFFFF ∧ value ≠ 0xFFFFFF) :
    Shortest value (wireValue (.uint value)) := by
  obtain ⟨notByte, notWord, notTriple⟩ := notBound
  have byte0 : (UInt8.ofNat value.toNat).toNat = value.toNat % 256 := UInt8.toNat_ofNat'
  have small := value.toNat_lt
  have bound1 : value.toNat ≠ 255 := fun h => notByte (UInt32.toNat_inj.mp h)
  have bound2 : value.toNat ≠ 65535 := fun h => notWord (UInt32.toNat_inj.mp h)
  have bound3 : value.toNat ≠ 16777215 := fun h => notTriple (UInt32.toNat_inj.mp h)
  have size := length_uint value
  simp only [wireValue, bytesFromInt32Be, uintLength] at size ⊢
  split_ifs at size ⊢ with zero one two three
  · subst zero
    exact ⟨rfl, fun same => (by cases same), fun others _ => Nat.zero_le _⟩
  · have below : value.toNat < 255 := UInt32.lt_iff_toNat_lt.mp one
    have nonzero : value.toNat ≠ 0 := fun h => zero (UInt32.toNat_inj.mp h)
    refine ⟨?_, ?_, fewest_of_large (.inr ?_)⟩
    · simp only [Nat.reduceSub, List.drop_succ_cons, List.drop_zero, bigEndian, List.foldl_cons,
        List.foldl_nil, byte0]
      omega
    · simpa using ofNat_ne_zero (show value.toNat % 256 ≠ 0 by omega)
    · rw [size]
      exact Nat.one_le_iff_ne_zero.mpr nonzero
  · have above : 255 ≤ value.toNat := Nat.le_of_not_lt fun h => one (UInt32.lt_iff_toNat_lt.mpr h)
    have below : value.toNat < 65535 := UInt32.lt_iff_toNat_lt.mp two
    refine ⟨?_, ?_, fewest_of_large (.inr ?_)⟩
    · simp only [Nat.reduceSub, List.drop_succ_cons, List.drop_zero, bigEndian, List.foldl_cons,
        List.foldl_nil, byte_at, byte0]
      omega
    · have high : (value.toNat >>> 8) % 256 ≠ 0 := by
        rw [Nat.shiftRight_eq_div_pow]
        omega
      simpa using ofNat_ne_zero high
    · rw [size]
      change 256 ≤ value.toNat
      omega
  · have above : 65535 ≤ value.toNat :=
      Nat.le_of_not_lt fun h => two (UInt32.lt_iff_toNat_lt.mpr h)
    have below : value.toNat < 16777215 := UInt32.lt_iff_toNat_lt.mp three
    refine ⟨?_, ?_, fewest_of_large (.inr ?_)⟩
    · simp only [Nat.reduceSub, List.drop_succ_cons, List.drop_zero, bigEndian, List.foldl_cons,
        List.foldl_nil, byte_at, byte0]
      omega
    · have high : (value.toNat >>> 16) % 256 ≠ 0 := by
        rw [Nat.shiftRight_eq_div_pow]
        omega
      simpa using ofNat_ne_zero high
    · rw [size]
      change 65536 ≤ value.toNat
      omega
  · have above : 16777215 ≤ value.toNat :=
      Nat.le_of_not_lt fun h => three (UInt32.lt_iff_toNat_lt.mpr h)
    refine ⟨?_, ?_, fewest_of_large (.inr ?_)⟩
    · simp only [Nat.reduceSub, List.drop_zero, bigEndian, List.foldl_cons, List.foldl_nil, byte_at,
        byte0]
      omega
    · have high : (value.toNat >>> 24) % 256 ≠ 0 := by
        rw [Nat.shiftRight_eq_div_pow]
        omega
      simpa using ofNat_ne_zero high
    · rw [size]
      change 16777216 ≤ value.toNat
      omega

/-- At a bound of the chain there is a leading zero. -/
theorem wireValue_bound {value : UInt32}
    (bound : value = 0xFF ∨ value = 0xFFFF ∨ value = 0xFFFFFF) :
    (wireValue (.uint value)).head? = some 0 := by
  rcases bound with rfl | rfl | rfl <;> rfl

/-- The integers that are encoded as they should be are all but the largest of one, two and three
    bytes. -/
theorem encodesShortest_iff (value : UInt32) :
    EncodesShortest value ↔ value ≠ 0xFF ∧ value ≠ 0xFFFF ∧ value ≠ 0xFFFFFF := by
  constructor
  · rintro ⟨bytes, encoded, shortest, -⟩
    rw [encodeUint_eq] at encoded
    obtain rfl := Except.ok.inj encoded
    have clear := fun bound => shortest.noLeadingZero (wireValue_bound bound)
    exact ⟨fun h => clear (.inl h), fun h => clear (.inr (.inl h)), fun h => clear (.inr (.inr h))⟩
  · intro notBound
    refine ⟨_, encodeUint_eq value, wireValue_shortest notBound, ?_⟩
    intro number pre rest isUint
    obtain ⟨shown, isShown, holds⟩ :=
      optionValue_spec number (pre ++ (wireValue (.uint value) ++ rest)) pre _ rest pre.length rfl rfl
    unfold Holds at holds
    rw [isUint] at holds
    rw [isShown, holds, uintValue_wireValue]

/-- 255 fits in one byte and is written with two. -/
theorem encodesShortest_not_255 : ¬ EncodesShortest 0xFF := by
  rintro ⟨bytes, encoded, shortest, -⟩
  have two : encodeUint 0xFF = .ok [0, 0xFF] := rfl
  rw [two] at encoded
  obtain rfl := Except.ok.inj encoded
  exact shortest.noLeadingZero rfl

end GoldenGate.Coap
