import GoldenGate.Coap.Iteration

/-! # From options to a datagram and back

The caller's options are linked in the order of their numbers, measured, and then
written. `wireValue` is what a value leaves on the wire and `encodeOptions` what a
whole list leaves: the measuring pass gives its length, the writing pass its bytes,
and the bytes are in the grammar.
-/

namespace GoldenGate.Coap

open Memory Grammar

/-! ## Sorting -/

/-- Ascending numbers, and the options under one number in the order they came in. -/
structure StablySorted (options sorted : List MessageOption) : Prop where
  ascending : sorted.Pairwise (fun a b => a.number ≤ b.number)
  stable : ∀ n, sorted.filter (fun o => o.number = n) = options.filter (fun o => o.number = n)

theorem mem_linkOption {option : MessageOption} {sorted : List MessageOption} :
    o ∈ linkOption option sorted ↔ o = option ∨ o ∈ sorted := by
  induction sorted with
  | nil => simp [linkOption]
  | cons cursor rest ih =>
      unfold linkOption
      split
      · simp only [List.mem_cons, ih]
        tauto
      · simp

theorem linkOption_ascending (option : MessageOption) {sorted : List MessageOption}
    (ascending : sorted.Pairwise (fun a b => a.number ≤ b.number)) :
    (linkOption option sorted).Pairwise (fun a b => a.number ≤ b.number) := by
  induction sorted with
  | nil => simp [linkOption]
  | cons cursor rest ih =>
      obtain ⟨first, others⟩ := List.pairwise_cons.mp ascending
      unfold linkOption
      split
      · next le =>
          refine .cons (fun o member => ?_) (ih others)
          rcases mem_linkOption.mp member with rfl | old
          · exact le
          · exact first o old
      · next gt =>
          have below : option.number ≤ cursor.number := UInt32.le_of_lt (UInt32.not_le.mp gt)
          refine .cons (fun o member => ?_) ascending
          rcases List.mem_cons.mp member with rfl | old
          · exact below
          · exact UInt32.le_trans below (first o old)

/-- Linking goes after the options with the same number. -/
theorem linkOption_stable (option : MessageOption) {sorted : List MessageOption}
    (ascending : sorted.Pairwise (fun a b => a.number ≤ b.number)) (n : UInt32) :
    (linkOption option sorted).filter (fun o => o.number = n) =
      sorted.filter (fun o => o.number = n) ++ [option].filter (fun o => o.number = n) := by
  induction sorted with
  | nil => simp [linkOption]
  | cons cursor rest ih =>
      obtain ⟨first, others⟩ := List.pairwise_cons.mp ascending
      unfold linkOption
      split
      · rw [List.filter_cons, List.filter_cons, ih others]
        split <;> simp
      · next gt =>
          have lt : option.number < cursor.number := UInt32.not_le.mp gt
          by_cases same : option.number = n
          · have none : (cursor :: rest).filter (fun o => o.number = n) = [] := by
              rw [List.filter_eq_nil_iff]
              intro o member
              have above : cursor.number ≤ o.number := by
                rcases List.mem_cons.mp member with rfl | old
                · exact UInt32.le_refl _
                · exact first o old
              have apart : n ≠ o.number := same ▸ UInt32.ne_of_lt (UInt32.lt_of_lt_of_le lt above)
              simpa using apart.symm
            rw [List.filter_cons, none]
            simp [same]
          · simp [List.filter_cons, same]

theorem foldl_linkOption_sorted (options : List MessageOption) {old sorted : List MessageOption}
    (start : StablySorted old sorted) :
    StablySorted (old ++ options)
      (options.foldl (fun sorted option => linkOption option sorted) sorted) := by
  induction options generalizing old sorted with
  | nil => simpa using start
  | cons option options ih =>
      have linked : StablySorted (old ++ [option]) (linkOption option sorted) :=
        { ascending := linkOption_ascending option start.ascending
          stable := fun n => by
            rw [linkOption_stable option start.ascending, start.stable, List.filter_append] }
      simpa using ih linked

theorem sortOptions_sorted (options : List MessageOption) :
    StablySorted options (sortOptions options) :=
  foldl_linkOption_sorted options ⟨.nil, fun _ => rfl⟩

theorem mem_of_filters {a b : List MessageOption}
    (same : ∀ n : UInt32, a.filter (fun o => o.number = n) = b.filter (fun o => o.number = n))
    (member : o ∈ a) : o ∈ b := by
  have kept : o ∈ a.filter (fun x => x.number = o.number) := by simp [member]
  rw [same] at kept
  exact (List.mem_filter.mp kept).1

theorem StablySorted.subset (sorting : StablySorted options sorted) (member : o ∈ sorted) :
    o ∈ options :=
  mem_of_filters sorting.stable member

theorem eq_of_ascending {a b : List MessageOption}
    (ascending : a.Pairwise (fun x y => x.number ≤ y.number))
    (ascending' : b.Pairwise (fun x y => x.number ≤ y.number))
    (same : ∀ n : UInt32, a.filter (fun o => o.number = n) = b.filter (fun o => o.number = n)) :
    a = b := by
  induction a generalizing b with
  | nil =>
      cases b with
      | nil => rfl
      | cons y b => exact absurd (mem_of_filters (fun n => (same n).symm) List.mem_cons_self) List.not_mem_nil
  | cons x a ih =>
      cases b with
      | nil => exact absurd (mem_of_filters same List.mem_cons_self) List.not_mem_nil
      | cons y b =>
          obtain ⟨first, others⟩ := List.pairwise_cons.mp ascending
          obtain ⟨first', others'⟩ := List.pairwise_cons.mp ascending'
          have below : x.number ≤ y.number := by
            cases List.mem_cons.mp (mem_of_filters (fun n => (same n).symm) (show y ∈ y :: b from List.mem_cons_self)) with
            | inl equal => rw [equal]; exact UInt32.le_refl _
            | inr later => exact first y later
          have above : y.number ≤ x.number := by
            cases List.mem_cons.mp (mem_of_filters same (show x ∈ x :: a from List.mem_cons_self)) with
            | inl equal => rw [equal]; exact UInt32.le_refl _
            | inr later => exact first' x later
          have number : x.number = y.number := UInt32.le_antisymm below above
          have heads := same x.number
          rw [List.filter_cons, List.filter_cons] at heads
          simp only [number, decide_true, if_true, List.cons.injEq] at heads
          obtain ⟨rfl, -⟩ := heads
          have tails : ∀ n : UInt32,
              a.filter (fun o => o.number = n) = b.filter (fun o => o.number = n) := by
            intro n
            have here := same n
            rw [List.filter_cons, List.filter_cons] at here
            split at here
            · exact (List.cons.inj here).2
            · exact here
          rw [ih others others' tails]

/-- There is one way to sort. -/
theorem StablySorted.unique (sorting : StablySorted options sorted)
    (sorting' : StablySorted options sorted') : sorted = sorted' :=
  eq_of_ascending sorting.ascending sorting'.ascending
    fun n => (sorting.stable n).trans (sorting'.stable n).symm

/-! ## Values on the wire -/

/-- Bytes that hold a `UINT`, as `GG_CoapMessage_OptionLength` counts them. -/
def uintLength (value : UInt32) : Nat :=
  if value = 0 then 0
  else if value < 0xFF then 1
  else if value < 0xFFFF then 2
  else if value < 0xFFFFFF then 3
  else 4

/-- The text of a string the caller passes: up to the NUL when there is no length. -/
def passedText (chars : List UInt8) (length : Nat) : List UInt8 :=
  if length = 0 then chars.takeWhile (· ≠ 0) else chars.take length

/-- What a value leaves on the wire. -/
def wireValue : OptionValue → List UInt8
  | .empty => []
  | .uint value => (bytesFromInt32Be value).drop (4 - uintLength value)
  | .string chars length => passedText (chars.getD []) length
  | .bytes bytes size => (bytes.getD []).take size

/-- The memory behind the value is there: strings end in a NUL or have a length that
    they reach, and there is a pointer where there is a length. -/
def Readable : OptionValue → Prop
  | .string (some chars) length => if length = 0 then 0 ∈ chars else length ≤ chars.length
  | .bytes (some bytes) size => size ≤ bytes.length
  | .string none length => length = 0
  | .bytes none size => size = 0
  | _ => True

theorem idxOf_takeWhile {chars : List UInt8} (terminated : 0 ∈ chars) :
    chars.idxOf? 0 = some (chars.takeWhile (· ≠ 0)).length := by
  induction chars with
  | nil => simp at terminated
  | cons c chars ih =>
      by_cases nul : c = 0
      · simp [nul, List.idxOf?_cons]
      · have later : 0 ∈ chars := by
          rcases List.mem_cons.mp terminated with h | h
          · exact absurd h.symm nul
          · exact h
        simp [nul, List.idxOf?_cons, ih later]

theorem length_uint (value : UInt32) : (wireValue (.uint value)).length = uintLength value := by
  simp only [wireValue, bytesFromInt32Be, List.length_drop, List.length_cons, List.length_nil,
    uintLength]
  split_ifs <;> rfl

theorem optionLength_spec (readable : Readable value) :
    optionLength value = .ok (wireValue value).length := by
  cases value with
  | empty => rfl
  | uint value =>
      rw [length_uint]
      simp only [optionLength, uintLength]
      split_ifs <;> rfl
  | string chars length =>
      cases chars with
      | none =>
          obtain rfl : length = 0 := readable
          rfl
      | some chars =>
          by_cases zero : length = 0
          · subst zero
            have terminated : 0 ∈ chars := by simpa [Readable] using readable
            simp only [optionLength, if_true, strlen, idxOf_takeWhile terminated, wireValue,
              passedText, Option.getD_some]
          · have inside : length ≤ chars.length := by simpa [Readable, zero] using readable
            simp [optionLength, zero, wireValue, passedText, inside]
  | bytes bytes size =>
      cases bytes with
      | none =>
          obtain rfl : size = 0 := readable
          rfl
      | some bytes =>
          have inside : size ≤ bytes.length := readable
          simp [optionLength, wireValue, inside]

/-- The value as the passes over the options have it, who count its length in 32 bits. -/
def cutValue (value : OptionValue) : List UInt8 :=
  (wireValue value).take ((wireValue value).length % 2 ^ 32)

theorem length_cutValue (value : OptionValue) :
    (cutValue value).length = (wireValue value).length % 2 ^ 32 := by
  rw [cutValue, List.length_take, Nat.min_eq_left (Nat.mod_le _ _)]

theorem cutValue_of_lt (small : (wireValue value).length < 2 ^ 32) :
    cutValue value = wireValue value := by
  rw [cutValue, Nat.mod_eq_of_lt small, List.take_length]

theorem readBytes_front (front : bytes <+: source) : readBytes source bytes.length = .ok bytes := by
  rw [readBytes, if_pos front.length_le, ← List.prefix_iff_eq_take.mp front]

/-- The serializer copies the wire bytes from a value that has any. -/
theorem valueSource_spec (readable : Readable value) :
    (valueSource (cutValue value).length value = none ∧ cutValue value = []) ∨
    ∃ source, valueSource (cutValue value).length value = some source ∧
      readBytes source (cutValue value).length = .ok (cutValue value) := by
  have cut : cutValue value <+: wireValue value := List.take_prefix _ _
  cases value with
  | empty => exact .inl ⟨rfl, rfl⟩
  | uint value =>
      have small : (wireValue (.uint value)).length < 2 ^ 32 := by
        rw [length_uint, uintLength]
        split_ifs <;> decide
      rw [cutValue_of_lt small]
      refine .inr ⟨wireValue (.uint value), ?_, readBytes_front (List.prefix_rfl)⟩
      rw [length_uint]
      rfl
  | string chars length =>
      cases chars with
      | none =>
          obtain rfl : length = 0 := readable
          exact .inl ⟨rfl, rfl⟩
      | some chars =>
          have front : wireValue (.string (some chars) length) <+: chars := by
            simp only [wireValue, passedText, Option.getD_some]
            split
            · exact List.takeWhile_prefix _
            · exact List.take_prefix _ _
          exact .inr ⟨chars, rfl, readBytes_front (cut.trans front)⟩
  | bytes bytes size =>
      cases bytes with
      | none =>
          obtain rfl : size = 0 := readable
          exact .inl ⟨rfl, rfl⟩
      | some bytes =>
          exact .inr ⟨bytes, rfl, readBytes_front (cut.trans (List.take_prefix _ _))⟩

/-- One round of the iterator's loop, with the wrap of 32 bits. -/
theorem uint_push (acc : UInt32) (b : UInt8) :
    ((acc <<< 8) ||| b.toUInt32).toNat = (acc.toNat * 256 + b.toNat) % 2 ^ 32 := by
  have byte := b.toNat_lt
  have shifted : (acc <<< 8).toNat = (acc.toNat % 2 ^ 24) <<< 8 := by
    rw [UInt32.toNat_shiftLeft, Nat.shiftLeft_eq, Nat.shiftLeft_eq,
      show (8 : UInt32).toNat % 32 = 8 from rfl]
    omega
  rw [UInt32.toNat_or, shifted, UInt8.toNat_toUInt32, Bytes.shiftLeft_or _ byte]
  omega

theorem uintValue_wireValue (v : UInt32) : uintValue (wireValue (.uint v)) = v := by
  rw [← UInt32.toNat_inj]
  have byte0 : (UInt8.ofNat v.toNat).toNat = v.toNat % 256 := UInt8.toNat_ofNat'
  have small := v.toNat_lt
  simp only [wireValue, bytesFromInt32Be, uintLength]
  split_ifs with zero one two three
  · simp [uintValue, zero]
  · have bound : v.toNat < 255 := UInt32.lt_iff_toNat_lt.mp one
    simp only [uintValue, Nat.reduceSub, List.drop_succ_cons, List.drop_zero, List.foldl_cons,
      List.foldl_nil, uint_push, byte0, UInt32.toNat_zero]
    omega
  · have bound : v.toNat < 65535 := UInt32.lt_iff_toNat_lt.mp two
    simp only [uintValue, Nat.reduceSub, List.drop_succ_cons, List.drop_zero, List.foldl_cons,
      List.foldl_nil, uint_push, byte_at, byte0, UInt32.toNat_zero]
    omega
  · have bound : v.toNat < 16777215 := UInt32.lt_iff_toNat_lt.mp three
    simp only [uintValue, Nat.reduceSub, List.drop_succ_cons, List.drop_zero, List.foldl_cons,
      List.foldl_nil, uint_push, byte_at, byte0, UInt32.toNat_zero]
    omega
  · simp only [uintValue, Nat.reduceSub, List.drop_zero, List.foldl_cons,
      List.foldl_nil, uint_push, byte_at, byte0, UInt32.toNat_zero]
    omega
/-! ## The two passes over the sorted options -/

/-- Largest delta or length the format holds. -/
def maxField : Nat := 269 + 0xFFFF

theorem getVarInt_spec (small : n ≤ maxField) :
    ∃ nibble ext extSize, getVarInt n = .ok (nibble, ext, extSize) ∧ nibble < 15 ∧
      FieldBytes nibble (extensionBytes ext extSize) n ∧
      (extensionBytes ext extSize).length = extSize := by
  unfold maxField at small
  unfold getVarInt
  by_cases short : n < 13
  · exact ⟨n, 0, 0, by simp [short], by omega, .short short, rfl⟩
  by_cases byte : n < 269
  · refine ⟨13, n - 13, 1, by simp [short, byte], by omega, ?_, rfl⟩
    have value : n = 13 + (UInt8.ofNat (n - 13)).toNat := by
      simp only [UInt8.toNat_ofNat']
      omega
    conv => rhs; rw [value]
    exact .byte _
  · refine ⟨14, n - 269, 2, by simp [short, byte, small], by omega, ?_, rfl⟩
    have value : n = 269 + ((UInt8.ofNat ((n - 269) >>> 8)).toNat * 256 +
        (UInt8.ofNat (n - 269)).toNat) := by
      simp only [UInt8.toNat_ofNat', Nat.shiftRight_eq_div_pow]
      omega
    conv => rhs; rw [value]
    exact .word _ _

/-- The options as the wire has them, each with the distance to the one before it. -/
def wireOptions (currentNumber : UInt32) : List MessageOption → List WireOption
  | [] => []
  | option :: options =>
      ⟨(option.number - currentNumber).toNat, wireValue option.value⟩ ::
        wireOptions option.number options

/-- An option that fits the format. -/
structure Encodable (option : MessageOption) : Prop where
  inRange : option.number.toNat ≤ maxField
  readable : Readable option.value
  fits : (wireValue option.value).length ≤ maxField

theorem header_nibbles {high low : Nat} (highSmall : high < 15) (lowSmall : low < 15) :
    (UInt8.ofNat ((high <<< 4) ||| low)).toNat / 16 = high ∧
      (UInt8.ofNat ((high <<< 4) ||| low)).toNat % 16 = low := by
  rw [Bytes.shiftLeft_or high (show low < 2 ^ 4 by omega), UInt8.toNat_ofNat']
  omega

/-- The format holds the distance and the value. -/
structure Fitting (option : WireOption) : Prop where
  delta : option.delta ≤ maxField
  value : option.value.length ≤ maxField

/-- What both passes do to one option: the sizes agree with the bytes, and the bytes
    are those of an option. -/
theorem passes_option {option : MessageOption} (readable : Readable option.value)
    {currentNumber : UInt32} (above : currentNumber ≤ option.number)
    (fitting : Fitting ⟨(option.number - currentNumber).toNat, cutValue option.value⟩) :
    ∃ bytes, OptionBytes
        ⟨(option.number - currentNumber).toNat, cutValue option.value⟩ bytes ∧
      (∀ size options, computeOptionsSize size currentNumber (option :: options) =
        computeOptionsSize (size + bytes.length) option.number options) ∧
      ∀ pre room post options, room.length = bytes.length →
        serializeOptions (pre ++ room ++ post) pre.length currentNumber (option :: options) =
          serializeOptions (pre ++ bytes ++ post) (pre.length + bytes.length) option.number
            options := by
  obtain ⟨deltaNibble, deltaExt, deltaExtSize, deltaInt, deltaSmall, deltaField, deltaLength⟩ :=
    getVarInt_spec fitting.delta
  obtain ⟨lengthNibble, lengthExt, lengthExtSize, lengthInt, lengthSmall, lengthField,
    lengthLength⟩ := getVarInt_spec fitting.value
  have order : assert (option.number ≥ currentNumber) = .ok () := by simp [assert, above]
  obtain ⟨high, low⟩ := header_nibbles deltaSmall lengthSmall
  let head := UInt8.ofNat ((deltaNibble <<< 4) ||| lengthNibble)
  let exts := extensionBytes deltaExt deltaExtSize ++ extensionBytes lengthExt lengthExtSize
  have extsLength : exts.length = deltaExtSize + lengthExtSize := by
    simp only [exts, List.length_append, deltaLength, lengthLength]
  have whole : head :: (exts ++ cutValue option.value) =
      head :: (extensionBytes deltaExt deltaExtSize ++ (extensionBytes lengthExt lengthExtSize ++
        cutValue option.value)) := by
    simp [exts]
  refine ⟨head :: (exts ++ cutValue option.value), ?_, ?_, ?_⟩
  · rw [whole]
    exact .mk (by rwa [high]) (by rwa [low])
  · intro size options
    have total : 1 + deltaExtSize + lengthExtSize + (cutValue option.value).length =
        (head :: (exts ++ cutValue option.value)).length := by
      simp only [List.length_cons, List.length_append, extsLength]
      omega
    simp only [computeOptionsSize, order, ok_bind, deltaInt, optionLength_spec readable,
      ← length_cutValue, lengthInt, total]
  · intro pre room post options sized
    have split : room = room.take (1 + exts.length) ++ room.drop (1 + exts.length) := by simp
    simp only [List.length_cons, List.length_append] at sized
    have first : (room.take (1 + exts.length)).length = (head :: exts).length := by
      simp only [List.length_take, List.length_cons]
      omega
    have second : (room.drop (1 + exts.length)).length = (cutValue option.value).length := by
      simp only [List.length_drop]
      omega
    generalize room.take (1 + exts.length) = roomHead at split first
    generalize room.drop (1 + exts.length) = roomValue at split second
    subst split
    have storedHead := store_append pre roomHead (head :: exts) (roomValue ++ post) first
    have storedValue := store_append (pre ++ head :: exts) roomValue (cutValue option.value) post
      second
    have place : pre.length + (1 + deltaExtSize + lengthExtSize) = (pre ++ head :: exts).length := by
      simp only [List.length_append, List.length_cons, extsLength]
      omega
    have shape : pre ++ (roomHead ++ roomValue) ++ post = pre ++ roomHead ++ (roomValue ++ post) := by
      simp
    have landed : (pre ++ head :: exts).length + (cutValue option.value).length =
        pre.length + (head :: (exts ++ cutValue option.value)).length := by
      simp only [List.length_append, List.length_cons]
      omega
    have result : pre ++ head :: exts ++ cutValue option.value ++ post =
        pre ++ head :: (exts ++ cutValue option.value) ++ post := by simp
    rw [shape]
    simp only [serializeOptions, order, ok_bind, deltaInt, optionLength_spec readable,
      ← length_cutValue, lengthInt]
    rw [storedHead, ok_bind, place]
    rcases valueSource_spec readable with ⟨noSource, nothing⟩ | ⟨source, found, copied⟩
    · have gone : roomValue = [] := by simpa [nothing] using second
      simp only [noSource, pure_ok, ok_bind, landed]
      simp [nothing, gone]
    · simp only [found, copied, ok_bind]
      rw [← List.append_assoc, storedValue, ok_bind, landed, result]

theorem getVarInt_large (large : maxField < n) : getVarInt n = .error .outOfRange := by
  unfold maxField at large
  rw [getVarInt, if_neg (by omega), if_neg (by omega), if_neg (by omega)]

/-- Both passes stop in front of an option that does not fit. -/
theorem passes_stopped {option : MessageOption} (readable : Readable option.value)
    {currentNumber : UInt32} (above : currentNumber ≤ option.number)
    (large : ¬ Fitting ⟨(option.number - currentNumber).toNat, cutValue option.value⟩) :
    (∀ size options, computeOptionsSize size currentNumber (option :: options) = .ok size) ∧
      ∀ buffer offset options,
        serializeOptions buffer offset currentNumber (option :: options) =
          .ok (buffer, .error .outOfRange) := by
  have order : assert (option.number ≥ currentNumber) = .ok () := by simp [assert, above]
  by_cases delta : (option.number - currentNumber).toNat ≤ maxField
  · have value : maxField < (cutValue option.value).length :=
      Nat.lt_of_not_le fun value => large ⟨delta, value⟩
    obtain ⟨nibble, ext, extSize, deltaInt, -⟩ := getVarInt_spec delta
    refine ⟨fun size options => ?_, fun buffer offset options => ?_⟩
    · simp only [computeOptionsSize, order, ok_bind, deltaInt, optionLength_spec readable,
        ← length_cutValue, getVarInt_large value, pure_ok]
    · simp only [serializeOptions, order, ok_bind, deltaInt, optionLength_spec readable,
        ← length_cutValue, getVarInt_large value, pure_ok]
  · have far := getVarInt_large (Nat.lt_of_not_le delta)
    refine ⟨fun size options => ?_, fun buffer offset options => ?_⟩
    · simp only [computeOptionsSize, order, ok_bind, far, pure_ok]
    · simp only [serializeOptions, order, ok_bind, far, pure_ok]

/-- The options as both passes have them. -/
def cutOptions (currentNumber : UInt32) : List MessageOption → List WireOption
  | [] => []
  | option :: options =>
      ⟨(option.number - currentNumber).toNat, cutValue option.value⟩ ::
        cutOptions option.number options

/-- Sizing and writing agree on the bytes, also when they stop early. When every option fits, these
    are the options. -/
theorem passes_agree {options : List MessageOption}
    (readable : ∀ o ∈ options, Readable o.value)
    (ascending : options.Pairwise (fun a b => a.number ≤ b.number)) {currentNumber : UInt32}
    (above : ∀ o ∈ options, currentNumber ≤ o.number) :
    ∃ bytes result,
      ((∀ o ∈ cutOptions currentNumber options, Fitting o) →
        result = .ok () ∧ OptionsBytes (cutOptions currentNumber options) bytes) ∧
      (∀ size, computeOptionsSize size currentNumber options = .ok (size + bytes.length)) ∧
      ∀ pre room post, room.length = bytes.length →
        serializeOptions (pre ++ room ++ post) pre.length currentNumber options =
          .ok (pre ++ bytes ++ post, result) := by
  induction options generalizing currentNumber with
  | nil =>
      refine ⟨[], .ok (), fun _ => ⟨rfl, .nil⟩, fun size => rfl, fun pre room post empty => ?_⟩
      obtain rfl : room = [] := by simpa using empty
      rfl
  | cons option options ih =>
      obtain ⟨first, others⟩ := List.pairwise_cons.mp ascending
      have here := readable option List.mem_cons_self
      have below := above option List.mem_cons_self
      by_cases fitting : Fitting ⟨(option.number - currentNumber).toNat, cutValue option.value⟩
      · obtain ⟨used, optionBytes, sizes, writes⟩ := passes_option here below fitting
        obtain ⟨rest, result, restBytes, restSizes, restWrites⟩ :=
          ih (fun o member => readable o (List.mem_cons_of_mem _ member)) others first
        refine ⟨used ++ rest, result, fun all => ?_, fun size => ?_, fun pre room post sized => ?_⟩
        · obtain ⟨ok, field⟩ := restBytes fun o member => all o (List.mem_cons_of_mem _ member)
          exact ⟨ok, .cons optionBytes field⟩
        · rw [sizes, restSizes, List.length_append, Nat.add_assoc]
        · have split : room = room.take used.length ++ room.drop used.length := by simp
          rw [List.length_append] at sized
          have front : (room.take used.length).length = used.length := by
            simp only [List.length_take]
            omega
          have back : (room.drop used.length).length = rest.length := by
            simp only [List.length_drop]
            omega
          have here := writes pre _ (room.drop used.length ++ post) options front
          have there := restWrites (pre ++ used) _ post back
          rw [List.length_append] at there
          conv_lhs => rw [split]
          simp only [List.append_assoc] at here there ⊢
          rw [here, there]
      · obtain ⟨sizes, writes⟩ := passes_stopped here below fitting
        refine ⟨[], .error .outOfRange, fun all => absurd (all _ List.mem_cons_self) fitting,
          fun size => sizes size options, fun pre room post empty => ?_⟩
        obtain rfl : room = [] := by simpa using empty
        exact writes _ _ _

/-! ## The whole message -/

/-- The first header byte: version 1, the type, the length of the token. -/
theorem first_byte (type : MessageType) {tokenLength : Nat} (short : tokenLength ≤ maxTokenLength) :
    (UInt8.ofNat ((1 <<< 6) ||| (type.bits <<< 4) ||| tokenLength)).toNat =
      64 + type.bits * 16 + tokenLength := by
  unfold maxTokenLength at short
  have bits : type.bits < 4 := by cases type <;> decide
  have every : ∀ t < 4, ∀ n ≤ 8,
      (UInt8.ofNat ((1 <<< 6) ||| (t <<< 4) ||| n)).toNat = 64 + t * 16 + n := by decide
  exact every _ bits _ short

theorem id_bytes (messageId : UInt16) :
    (UInt8.ofNat ((messageId.toNat >>> 8) &&& 0xFF)).toNat * 256 +
      (UInt8.ofNat (messageId.toNat &&& 0xFF)).toNat = messageId.toNat := by
  have word := messageId.toNat_lt
  have high : (messageId.toNat >>> 8) &&& 0xFF = (messageId.toNat >>> 8) % 256 :=
    Bytes.and_mask _ 8
  have low : messageId.toNat &&& 0xFF = messageId.toNat % 256 := Bytes.and_mask _ 8
  rw [high, low, UInt8.toNat_ofNat', UInt8.toNat_ofNat', Nat.shiftRight_eq_div_pow]
  omega

theorem ofBits_bits (type : MessageType) : MessageType.ofBits type.bits = type := by
  cases type <;> rfl

/-- The payload field of a payload of any size. -/
def payloadField (payload : List UInt8) : List UInt8 :=
  if payload = [] then [] else 0xFF :: payload

theorem payloadField_bytes (payload : List UInt8) :
    PayloadBytes payload (payloadField payload) := by
  unfold payloadField
  split
  · next empty => exact empty ▸ .absent
  · next nonempty => exact .marked nonempty

/-- A header, a token, options and a payload are a message. -/
theorem message_bytes (code : UInt8) (type : MessageType) (messageId : UInt16) {token : List UInt8}
    (short : token.length ≤ maxTokenLength) (field : OptionsBytes options bytes)
    (payload : List UInt8) :
    MessageBytes ⟨type.bits, code, messageId.toNat, token, options, payload⟩
      (UInt8.ofNat ((1 <<< 6) ||| (type.bits <<< 4) ||| token.length) :: code ::
        UInt8.ofNat ((messageId.toNat >>> 8) &&& 0xFF) ::
        UInt8.ofNat (messageId.toNat &&& 0xFF) ::
        (token ++ (bytes ++ payloadField payload))) := by
  have first := first_byte type short
  have typeSmall : type.bits < 4 := by cases type <;> decide
  have tokenSmall : token.length < 16 := short.trans_lt (by decide)
  have wireType : (64 + type.bits * 16 + token.length) / 16 % 4 = type.bits := by omega
  have validated := @MessageBytes.mk _ code (UInt8.ofNat ((messageId.toNat >>> 8) &&& 0xFF))
    (UInt8.ofNat (messageId.toNat &&& 0xFF)) token bytes _ _ _
    (by rw [first]; omega) (by rw [first]; omega) short field (payloadField_bytes payload)
  rwa [first, wireType, id_bytes] at validated

/-- The payload that a message is created with: zeros when the caller fills it in later. -/
def createdPayload (payload : Option (List UInt8)) (payloadSize : Nat) : List UInt8 :=
  match payload with
  | some payload => payload.take payloadSize
  | none => List.replicate payloadSize 0

/-- The payload is as long as the caller says. -/
def ReadablePayload (payload : Option (List UInt8)) (payloadSize : Nat) : Prop :=
  ∀ bytes, payload = some bytes → payloadSize ≤ bytes.length

theorem length_createdPayload (readable : ReadablePayload payload payloadSize) :
    (createdPayload payload payloadSize).length = payloadSize := by
  cases payload with
  | none => simp [createdPayload]
  | some bytes => simpa [createdPayload] using readable bytes rfl

/-- A message whose token is not too long is created, with what the passes over the options leave. -/
theorem create_writes (code : UInt8) (type : MessageType) (messageId : UInt16) (token : List UInt8)
    (short : token.length ≤ maxTokenLength) {options : List MessageOption}
    (readable : ∀ o ∈ options, Readable o.value) {payload : Option (List UInt8)} {payloadSize : Nat}
    (readablePayload : ReadablePayload payload payloadSize) :
    ∃ bytes message,
      ((∀ o ∈ cutOptions 0 (sortOptions options), Fitting o) →
        OptionsBytes (cutOptions 0 (sortOptions options)) bytes) ∧
      create code type options messageId token payload payloadSize = .ok (.ok message) ∧
      message.data =
        UInt8.ofNat ((1 <<< 6) ||| (type.bits <<< 4) ||| token.length) :: code ::
          UInt8.ofNat ((messageId.toNat >>> 8) &&& 0xFF) ::
          UInt8.ofNat (messageId.toNat &&& 0xFF) ::
          (token ++ (bytes ++ payloadField (createdPayload payload payloadSize))) := by
  have sorting := sortOptions_sorted options
  obtain ⟨bytes, result, field, sizes, writes⟩ :=
    passes_agree (fun o member => readable o (sorting.subset member)) sorting.ascending
      (fun o _ => show 0 ≤ o.number from UInt32.zero_le)
  let header : List UInt8 :=
    [UInt8.ofNat ((1 <<< 6) ||| (type.bits <<< 4) ||| token.length), code,
      UInt8.ofNat ((messageId.toNat >>> 8) &&& 0xFF), UInt8.ofNat (messageId.toNat &&& 0xFF)]
  let room := if payloadSize ≠ 0 then 1 + payloadSize else 0
  let total := 4 + token.length + (0 + bytes.length) + room
  have total_eq : total = 4 + token.length + bytes.length + room := by simp [total]
  have storedHeader : store (List.replicate total 0) 0 header =
      .ok (header ++ List.replicate (total - 4) 0) :=
    store_fresh [] header total (by simp only [header, List.length_cons, List.length_nil]; omega)
  have storedToken : store (header ++ List.replicate (total - 4) 0) 4 token =
      .ok (header ++ token ++ List.replicate (bytes.length + room) 0) := by
    rw [show bytes.length + room = total - 4 - token.length by omega]
    exact store_fresh header token (total - 4) (by omega)
  have offset : 4 + token.length = (header ++ token).length := by
    simp only [header, List.length_append, List.length_cons, List.length_nil]
  have serialized : serializeOptions (header ++ token ++ List.replicate (bytes.length + room) 0)
      (4 + token.length) 0 (sortOptions options) =
      .ok (header ++ token ++ bytes ++ List.replicate room 0, result) := by
    rw [← List.replicate_append_replicate, ← List.append_assoc, offset]
    exact writes _ _ _ (by simp)
  have text := length_createdPayload readablePayload
  by_cases empty : payloadSize = 0
  · refine ⟨bytes, ⟨header ++ token ++ bytes ++ List.replicate room 0,
      4 + token.length + (0 + bytes.length), 0⟩, fun all => (field all).2, ?_, ?_⟩
    · simp only [create, not_lt.mpr short, if_false, sizes, ok_bind]
      change (store (List.replicate total 0) 0 header >>= _) = _
      simp only [storedHeader, storedToken, serialized, ok_bind, empty, if_true, pure_ok]
    · have nothing : payloadField (createdPayload payload payloadSize) = [] := by
        rw [payloadField, if_pos (List.length_eq_zero_iff.mp (text.trans empty))]
      rw [nothing]
      simp [header, room, empty]
  · have opened : room = 1 + payloadSize := by simp [room, empty]
    have storedMarker : store (header ++ token ++ bytes ++ List.replicate room 0)
        (4 + token.length + (0 + bytes.length)) [0xFF] =
        .ok (header ++ token ++ bytes ++ [0xFF] ++ List.replicate payloadSize 0) := by
      rw [opened, offset, Nat.zero_add, ← List.length_append]
      have stored := store_fresh (header ++ token ++ bytes) [0xFF] (1 + payloadSize) (by simp)
      simpa using stored
    have storedPayload :
        store (header ++ token ++ bytes ++ [0xFF] ++ List.replicate payloadSize 0)
          (4 + token.length + (0 + bytes.length) + 1) (createdPayload payload payloadSize) =
        .ok (header ++ token ++ bytes ++ [0xFF] ++ createdPayload payload payloadSize) := by
      have place : 4 + token.length + (0 + bytes.length) + 1 =
          (header ++ token ++ bytes ++ [0xFF]).length := by
        simp only [offset, List.length_append, List.length_cons, List.length_nil]
        omega
      rw [place]
      have stored := store_fresh (header ++ token ++ bytes ++ [0xFF])
        (createdPayload payload payloadSize) payloadSize text.le
      rwa [text, Nat.sub_self, List.replicate_zero, List.append_nil] at stored
    refine ⟨bytes, ⟨header ++ token ++ bytes ++ [0xFF] ++ createdPayload payload payloadSize,
      4 + token.length + (0 + bytes.length) + 1, payloadSize⟩, fun all => (field all).2, ?_, ?_⟩
    · simp only [create, not_lt.mpr short, if_false, sizes, ok_bind]
      change (store (List.replicate total 0) 0 header >>= _) = _
      simp only [storedHeader, storedToken, serialized, ok_bind, empty, if_false, storedMarker]
      cases payload with
      | none =>
          rw [createdPayload] at storedPayload
          rw [storedPayload]
          rfl
      | some payload =>
          have whole : readBytes payload payloadSize = .ok (payload.take payloadSize) :=
            if_pos (readablePayload payload rfl)
          simp only [whole, ok_bind]
          rw [createdPayload] at storedPayload
          rw [storedPayload]
          rfl
    · have nonempty : createdPayload payload payloadSize ≠ [] := by
        intro h
        rw [h] at text
        exact empty text.symm
      simp [header, payloadField, nonempty]

theorem cutOptions_eq {options : List MessageOption}
    (small : ∀ o ∈ options, (wireValue o.value).length < 2 ^ 32) (currentNumber : UInt32) :
    cutOptions currentNumber options = wireOptions currentNumber options := by
  induction options generalizing currentNumber with
  | nil => rfl
  | cons option options ih =>
      rw [cutOptions, wireOptions, cutValue_of_lt (small option List.mem_cons_self),
        ih fun o member => small o (List.mem_cons_of_mem _ member)]

theorem delta_le {options : List MessageOption} {limit : Nat}
    (small : ∀ o ∈ options, o.number.toNat ≤ limit)
    (ascending : options.Pairwise (fun a b => a.number ≤ b.number)) {currentNumber : UInt32}
    (above : ∀ o ∈ options, currentNumber ≤ o.number) :
    ∀ o ∈ wireOptions currentNumber options, o.delta ≤ limit := by
  induction options generalizing currentNumber with
  | nil => exact fun o member => (nomatch member)
  | cons option options ih =>
      obtain ⟨first, others⟩ := List.pairwise_cons.mp ascending
      intro o member
      rcases List.mem_cons.mp member with rfl | later
      · change (option.number - currentNumber).toNat ≤ limit
        rw [UInt32.toNat_sub_of_le _ _ (above option List.mem_cons_self)]
        exact (Nat.sub_le _ _).trans (small option List.mem_cons_self)
      · exact ih (fun o member => small o (List.mem_cons_of_mem _ member)) others first o later

theorem value_mem_wireOptions {options : List MessageOption} {currentNumber : UInt32}
    (member : o ∈ wireOptions currentNumber options) : ∃ p ∈ options, o.value = wireValue p.value := by
  induction options generalizing currentNumber with
  | nil => exact nomatch member
  | cons option options ih =>
      rcases List.mem_cons.mp member with rfl | later
      · exact ⟨option, List.mem_cons_self, rfl⟩
      · obtain ⟨p, inside, same⟩ := ih later
        exact ⟨p, List.mem_cons_of_mem _ inside, same⟩

theorem mem_wireOptions_of_mem {options : List MessageOption} {currentNumber : UInt32}
    (member : p ∈ options) : ∃ o ∈ wireOptions currentNumber options, o.value = wireValue p.value := by
  induction options generalizing currentNumber with
  | nil => exact nomatch member
  | cons option options ih =>
      cases List.mem_cons.mp member with
      | inl equal => exact ⟨_, List.mem_cons_self, equal ▸ rfl⟩
      | inr later =>
          obtain ⟨o, inside, same⟩ := ih later
          exact ⟨o, List.mem_cons_of_mem _ inside, same⟩

/-- `create` leaves exactly the header, the token, the options and the payload. -/
theorem create_data (code : UInt8) (type : MessageType) (messageId : UInt16) (token : List UInt8)
    (short : token.length ≤ maxTokenLength) {options : List MessageOption}
    (encodable : ∀ o ∈ options, Encodable o) (payload : Option (List UInt8)) (payloadSize : Nat)
    (readable : payloadSize ≤ (payload.getD []).length) :
    ∃ bytes message, OptionsBytes (wireOptions 0 (sortOptions options)) bytes ∧
      create code type options messageId token payload payloadSize = .ok (.ok message) ∧
      message.data =
        UInt8.ofNat ((1 <<< 6) ||| (type.bits <<< 4) ||| token.length) :: code ::
          UInt8.ofNat ((messageId.toNat >>> 8) &&& 0xFF) ::
          UInt8.ofNat (messageId.toNat &&& 0xFF) ::
          (token ++ (bytes ++ payloadField ((payload.getD []).take payloadSize))) := by
  have sorting := sortOptions_sorted options
  have inSorted : ∀ o ∈ sortOptions options, Encodable o :=
    fun o member => encodable o (sorting.subset member)
  have readablePayload : ReadablePayload payload payloadSize := by
    rintro bytes rfl
    exact readable
  obtain ⟨bytes, message, field, created, data⟩ := create_writes code type messageId token short
    (fun o member => (encodable o member).readable) readablePayload
  have whole : cutOptions 0 (sortOptions options) = wireOptions 0 (sortOptions options) :=
    cutOptions_eq (fun o member => (inSorted o member).fits.trans_lt (by decide)) 0
  have fitting : ∀ o ∈ wireOptions 0 (sortOptions options), Fitting o := by
    refine fun o member => ⟨delta_le (fun o member => (inSorted o member).inRange)
      sorting.ascending (fun o _ => show 0 ≤ o.number from UInt32.zero_le) o member, ?_⟩
    obtain ⟨p, inside, same⟩ := value_mem_wireOptions member
    rw [same]
    exact (inSorted p inside).fits
  rw [whole] at field
  refine ⟨bytes, message, field fitting, created, ?_⟩
  have same : createdPayload payload payloadSize = (payload.getD []).take payloadSize := by
    cases payload with
    | none =>
        obtain rfl : payloadSize = 0 := by simpa using readable
        rfl
    | some bytes => rfl
  rw [← same]
  exact data

theorem numbered_wireOptions {options : List MessageOption}
    (ascending : options.Pairwise (fun a b => a.number ≤ b.number)) {currentNumber : UInt32}
    (above : ∀ o ∈ options, currentNumber ≤ o.number) :
    numbered currentNumber.toNat (wireOptions currentNumber options) =
      options.map (fun o => (o.number.toNat, wireValue o.value)) := by
  induction options generalizing currentNumber with
  | nil => rfl
  | cons option options ih =>
      obtain ⟨first, others⟩ := List.pairwise_cons.mp ascending
      have below : currentNumber ≤ option.number := above option (by simp)
      have step : currentNumber.toNat + (option.number - currentNumber).toNat =
          option.number.toNat := by
        rw [UInt32.toNat_sub_of_le _ _ below]
        exact Nat.add_sub_cancel' (UInt32.le_iff_toNat_le.mp below)
      rw [wireOptions, numbered, step, ih others first, List.map_cons]

def OptionValue.type : OptionValue → OptionType
  | .empty => .empty
  | .uint _ => .uint
  | .string _ _ => .string
  | .bytes _ _ => .bytes

/-- An option a caller may pass: a real number, a value of the type that goes with it,
    in readable memory, and not too long for the format. -/
structure Passable (option : MessageOption) : Prop where
  number : 1 ≤ option.number.toNat ∧ option.number.toNat ≤ 65535
  typed : option.value.type = optionType option.number
  readable : Readable option.value
  sized : (wireValue option.value).length ≤ 65804

theorem Passable.encodable (passable : Passable option) : Encodable option where
  inRange := passable.number.2.trans (by decide)
  readable := passable.readable
  fits := passable.sized

/-- One value, as the caller passes it and as the iterator shows it. -/
inductive SameValue : OptionValue → OptionValue → Prop where
  | empty : SameValue .empty .empty
  | uint (value : UInt32) : SameValue (.uint value) (.uint value)
  | string (text : passedText (chars.getD []) length = shown.take size)
      (size_eq : size = (passedText (chars.getD []) length).length) :
      SameValue (.string chars length) (.string (some shown) size)
  | bytes (content : (bytes.getD []).take size = shown.take size) :
      SameValue (.bytes bytes size) (.bytes (some shown) size)

def SameOption (passed shown : MessageOption) : Prop :=
  shown.number = passed.number ∧ SameValue passed.value shown.value

/-- A value read back from its own wire bytes. -/
theorem sameValue_of_holds {value shown : OptionValue} (readable : Readable value)
    (typed : value.type = optionType number) (holds : Holds number (wireValue value) shown) :
    SameValue value shown := by
  unfold Holds at holds
  rw [← typed] at holds
  cases value with
  | empty =>
      obtain rfl : shown = .empty := holds
      exact .empty
  | uint value =>
      obtain rfl : shown = .uint (uintValue (wireValue (.uint value))) := holds
      rw [uintValue_wireValue]
      exact .uint value
  | string chars length =>
      obtain ⟨text, rfl, same⟩ := holds
      exact .string same.symm rfl
  | bytes bytes size =>
      obtain ⟨content, rfl, same⟩ := holds
      have full : (wireValue (.bytes bytes size)).length = size := by
        cases bytes with
        | none =>
            obtain rfl : size = 0 := readable
            rfl
        | some bytes =>
            have inside : size ≤ bytes.length := readable
            simp [wireValue, inside]
      rw [full] at same ⊢
      exact .bytes same.symm

theorem clear_of_real {options : List (Nat × List UInt8)}
    (real : ∀ o ∈ options, 0 < o.1 ∧ o.1 < 2 ^ 32) (filter : UInt32) : Clear filter options := by
  have none : fromSentinel options = [] := by
    refine List.dropWhile_eq_nil_iff.mpr fun o member => ?_
    have bounds := real o member
    have apart : ¬ IsSentinel o := by
      simp only [IsSentinel]
      omega
    simpa using apart
  exact ⟨by simp [none], fun o member _ => (real o ((List.takeWhile_sublist _).subset member)).2⟩

/-- The accessors on a parsed datagram read the fields the grammar names. -/
theorem accessors_of_bytes (bytes : MessageBytes wire datagram) :
    let parsed : Message :=
      { data := datagram
        payloadOffset := datagram.length - wire.payload.length
        payloadSize := wire.payload.length }
    parsed.getCode = .ok wire.code ∧ parsed.getType = .ok (.ofBits wire.type) ∧
      parsed.getMessageId = .ok wire.messageId ∧ parsed.getToken = .ok wire.token ∧
      parsed.getPayload = wire.payload := by
  cases bytes with
  | @mk first code idHi idLo token optionBytes payload payloadBytes options version announced
      short optionsField payloadField =>
      have inside : 4 + token.length ≤
          (first :: code :: idHi :: idLo :: (token ++ (optionBytes ++ payloadBytes))).length := by
        simp only [List.length_cons, List.length_append]
        omega
      obtain ⟨before, tail⟩ : ∃ before,
          first :: code :: idHi :: idLo :: (token ++ (optionBytes ++ payloadBytes)) =
            before ++ payload := by
        cases payloadField with
        | absent => exact ⟨_, (List.append_nil _).symm⟩
        | marked => exact ⟨first :: code :: idHi :: idLo :: (token ++ (optionBytes ++ [0xFF])), by simp⟩
      refine ⟨rfl, ?_, ?_, ?_, ?_⟩
      · simp [Message.getType, load]
      · simp [Message.getMessageId, load]
      · simp only [Message.getToken, load, List.getElem?_cons_zero, ok_bind, Bytes.low_nibble,
          announced, Nat.min_eq_right short, inside, if_true]
        simp
      · simp [Message.getPayload, tail]

/-- Create, send, parse: every field comes back, and the options in stable order. -/
theorem create_round_trip (code : UInt8) (type : MessageType) (messageId : UInt16)
    (token : List UInt8) (options : List MessageOption) (payload : Option (List UInt8))
    (payloadSize : Nat) (short : token.length ≤ maxTokenLength)
    (passable : ∀ o ∈ options, Passable o)
    (readable : payloadSize ≤ (payload.getD []).length) :
    ∃ message parsed sorted visited,
      create code type options messageId token payload payloadSize = .ok (.ok message) ∧
      createFromDatagram message.toDatagram = .ok (.ok parsed) ∧
      parsed.getCode = .ok code ∧ parsed.getType = .ok type ∧
      parsed.getMessageId = .ok messageId.toNat ∧ parsed.getToken = .ok token ∧
      parsed.getPayload = (payload.getD []).take payloadSize ∧
      parsed.visitOptions 0 = .ok visited ∧
      StablySorted options sorted ∧ List.Forall₂ SameOption sorted visited := by
  have sorting := sortOptions_sorted options
  have sortedPassable : ∀ o ∈ sortOptions options, Passable o :=
    fun o member => passable o (sorting.subset member)
  obtain ⟨bytes, message, field, created, data⟩ := create_data code type messageId token short
    (fun o member => (passable o member).encodable) payload payloadSize readable
  have validated := message_bytes code type messageId short field ((payload.getD []).take payloadSize)
  rw [← data] at validated
  have accepted := createFromDatagram_complete validated
  obtain ⟨codeBack, typeBack, idBack, tokenBack, payloadBack⟩ := accessors_of_bytes validated
  -- and the iterator is not stopped early
  have numbers := numbered_wireOptions sorting.ascending
    (fun o _ => show 0 ≤ o.number from UInt32.zero_le)
  have clear : Clear 0 (numbered 0 (wireOptions 0 (sortOptions options))) := by
    refine clear_of_real (fun o member => ?_) 0
    rw [show numbered 0 _ = _ from numbers] at member
    obtain ⟨option, inSorted, rfl⟩ := List.mem_map.mp member
    have bounds := (sortedPassable option inSorted).number
    exact ⟨bounds.1, option.number.toNat_lt⟩
  obtain ⟨visited, looped, shows⟩ :=
    visits_of_clear accepted validated clear _ List.mem_cons_self
  refine ⟨message, _, sortOptions options, visited, created, accepted, codeBack, ?_, idBack,
    tokenBack, payloadBack, looped, sorting, ?_⟩
  · rw [typeBack, ofBits_bits]
  · have all : (numbered 0 (wireOptions 0 (sortOptions options))).filter
        (fun o => Matches 0 o.1) = (sortOptions options).map
          (fun o => (o.number.toNat, wireValue o.value)) := by
      rw [show numbered 0 _ = _ from numbers]
      exact List.filter_eq_self.mpr (by simp [Matches])
    rw [all, List.forall₂_map_left_iff] at shows
    refine ((List.forall₂_and_left _ _).mpr ⟨sortedPassable, shows⟩).imp ?_
    rintro passed shown ⟨able, number, holds⟩
    have same : shown.number = passed.number := UInt32.toNat_inj.mp number
    rw [same] at holds
    exact ⟨same, sameValue_of_holds able.readable able.typed holds⟩

/-- A path with a NUL, a port and a flag, passed out of order. -/
def mixedOptions : List MessageOption :=
  [⟨optionUriPath, .string (some [0x61, 0x62, 0]) 0⟩, ⟨optionUriPort, .uint 5683⟩,
    ⟨optionIfNoneMatch, .empty⟩, ⟨optionUriPath, .string (some [0x63]) 1⟩,
    ⟨4, .bytes (some [1, 2, 3]) 2⟩]

theorem mixedOptions_passable : ∀ o ∈ mixedOptions, Passable o := by
  have each : ∀ o ∈ mixedOptions, (1 ≤ o.number.toNat ∧ o.number.toNat ≤ 65535) ∧
      o.value.type = optionType o.number ∧ (wireValue o.value).length ≤ 65804 := by decide
  have readable : ∀ o ∈ mixedOptions, Readable o.value := by simp [mixedOptions, Readable]
  exact fun o member =>
    ⟨(each o member).1, (each o member).2.1, readable o member, (each o member).2.2⟩

theorem create_round_trip_mixed :
    ∃ message parsed sorted visited,
      create 1 .con mixedOptions 7 [0xAA] (some [9, 8]) 2 = .ok (.ok message) ∧
      createFromDatagram message.toDatagram = .ok (.ok parsed) ∧
      parsed.getCode = .ok 1 ∧ parsed.getType = .ok .con ∧ parsed.getMessageId = .ok 7 ∧
      parsed.getToken = .ok [0xAA] ∧ parsed.getPayload = [9, 8] ∧
      parsed.visitOptions 0 = .ok visited ∧
      StablySorted mixedOptions sorted ∧ List.Forall₂ SameOption sorted visited :=
  create_round_trip 1 .con 7 [0xAA] mixedOptions (some [9, 8]) 2 (by decide)
    mixedOptions_passable (by decide)

end GoldenGate.Coap
