import GoldenGate.Coap.Grammar
import Mathlib.Data.List.Forall2
import Mathlib.Data.List.TakeWhile
import Mathlib.Data.UInt

/-! # The option iterator against the parser

The iterator decodes the options a second time, without checks, and hands out a
32-bit number whose value 0 means that there is none. What it visits is therefore
the options before the first number that is 0 modulo `2 ^ 32`, among them those
whose low 32 bits match the filter.
-/

namespace GoldenGate.Coap

open Memory Grammar

/-- The options of a datagram under their absolute numbers. -/
def numbered (previous : Nat) : List WireOption → List (Nat × List UInt8)
  | [] => []
  | option :: options =>
      (previous + option.delta, option.value) :: numbered (previous + option.delta) options

/-- The integer a `UINT` value stands for, as far as 32 bits hold it. -/
def uintValue (value : List UInt8) : UInt32 :=
  value.foldl (fun v b => (v <<< 8) ||| b.toUInt32) 0

/-- The option's value as the caller sees it: the type that goes with the number,
    with the bytes of the datagram behind it. -/
def Holds (number : UInt32) (value : List UInt8) (v : OptionValue) : Prop :=
  match optionType number with
  | .empty => v = .empty
  | .uint => v = .uint (uintValue value)
  | .string => ∃ chars, v = .string (some chars) value.length ∧ chars.take value.length = value
  | .bytes => ∃ bytes, v = .bytes (some bytes) value.length ∧ bytes.take value.length = value

/-- What the iterator reports is this option: its number, its value, its length. -/
def Shows (option : Nat × List UInt8) (shown : MessageOption) : Prop :=
  shown.number.toNat = option.1 ∧ Holds shown.number option.2 shown.value

/-- The filter lets the option through; 0 lets every option through. -/
def Matches (filter : UInt32) (number : Nat) : Prop := filter = 0 ∨ number = filter.toNat

instance (filter : UInt32) (number : Nat) : Decidable (Matches filter number) :=
  inferInstanceAs (Decidable (_ ∨ _))

/-- The number that stands for no option in 32 bits. -/
def IsSentinel (option : Nat × List UInt8) : Prop := option.1 % 2 ^ 32 = 0

instance (option : Nat × List UInt8) : Decidable (IsSentinel option) :=
  inferInstanceAs (Decidable (_ = _))

/-- The options in front of the first sentinel. -/
def beforeSentinel (options : List (Nat × List UInt8)) : List (Nat × List UInt8) :=
  options.takeWhile (fun o => ¬ IsSentinel o)

/-- The first sentinel and what follows it. -/
def fromSentinel (options : List (Nat × List UInt8)) : List (Nat × List UInt8) :=
  options.dropWhile (fun o => ¬ IsSentinel o)

/-- What the iterator gets to see of a list of numbered options. -/
def seen (filter : UInt32) (options : List (Nat × List UInt8)) : List (Nat × List UInt8) :=
  (beforeSentinel options).filter (fun o => filter = 0 ∨ o.1 % 2 ^ 32 = filter.toNat)

theorem seen_cons (filter : UInt32) (o : Nat × List UInt8) (os : List (Nat × List UInt8)) :
    seen filter (o :: os) =
      if IsSentinel o then []
      else if filter = 0 ∨ o.1 % 2 ^ 32 = filter.toNat then o :: seen filter os
      else seen filter os := by
  by_cases sentinel : IsSentinel o
  · simp [seen, beforeSentinel, sentinel]
  · simp [seen, beforeSentinel, sentinel, List.filter_cons]

theorem ofNat_eq_zero (n : Nat) : UInt32.ofNat n = 0 ↔ n % 2 ^ 32 = 0 := by
  rw [← UInt32.toNat_inj]
  simp

theorem ofNat_eq (n : Nat) (k : UInt32) : UInt32.ofNat n = k ↔ n % 2 ^ 32 = k.toNat := by
  rw [← UInt32.toNat_inj]
  simp

/-! ## One step -/

theorem readExtended_spec (field : FieldBytes nibble ext v) (data pre rest : List UInt8)
    (location : Nat) (split : data = pre ++ (ext ++ rest)) (place : location = pre.length) :
    readExtended data nibble location = .ok (v, location + ext.length) := by
  subst split place
  cases field with
  | short small =>
      simp [readExtended, show nibble ≠ 13 by omega, show nibble ≠ 14 by omega]
  | byte b => simp [readExtended, load]
  | word hi lo => simp [readExtended, load]

theorem readUint_spec (pre value rest : List UInt8) (v : UInt32) :
    readUint (pre ++ (value ++ rest)) value.length pre.length v =
      .ok (value.foldl (fun v b => (v <<< 8) ||| b.toUInt32) v) := by
  induction value generalizing pre v with
  | nil => rfl
  | cons b value ih =>
      have next := ih (pre ++ [b]) ((v <<< 8) ||| b.toUInt32)
      simp only [List.append_assoc, List.cons_append, List.nil_append, List.length_append,
        List.length_cons, List.length_nil, Nat.zero_add] at next
      simp only [List.length_cons, readUint, List.cons_append, load_append, ok_bind, next,
        List.foldl_cons]

theorem optionValue_spec (number : UInt32) (data pre value rest : List UInt8) (location : Nat)
    (split : data = pre ++ (value ++ rest)) (place : location = pre.length) :
    ∃ v, optionValue data number location value.length = .ok v ∧ Holds number value v := by
  subst split place
  unfold optionValue Holds
  cases optionType number with
  | empty => exact ⟨_, rfl, rfl⟩
  | uint => exact ⟨_, by simp [readUint_spec, uintValue], rfl⟩
  | string => exact ⟨_, rfl, _, rfl, by simp⟩
  | bytes => exact ⟨_, rfl, _, rfl, by simp⟩

/-- Before an option, the iterator moves behind it and adds its delta. -/
theorem step_option (first : OptionBytes option used) (pre rest : List UInt8)
    (iterator : OptionIterator) (place : iterator.location = pre.length)
    (inside : pre.length < iterator.endLocation) :
    ∃ value,
      stepOptionIterator_ (pre ++ (used ++ rest)) iterator =
        .ok { iterator with
          option := ⟨iterator.option.number + UInt32.ofNat option.delta, value⟩
          location := pre.length + used.length } ∧
      (iterator.filter = 0 ∨
          iterator.filter = iterator.option.number + UInt32.ofNat option.delta →
        Holds (iterator.option.number + UInt32.ofNat option.delta) option.value value) := by
  cases first with
  | @mk head deltaExt lengthExt bytes delta deltaField lengthField =>
      have below := head.toNat_lt
      have notReserved : ¬ (head.toNat / 16 = 15 ∨ head.toNat % 16 = 15) := by
        rintro (h | h)
        · rw [h] at deltaField
          cases deltaField
          omega
        · rw [h] at lengthField
          generalize hn : bytes.length = n at lengthField
          cases lengthField
          omega
      have started : ¬ pre.length ≥ iterator.endLocation := by omega
      let data := pre ++ (head :: (deltaExt ++ (lengthExt ++ bytes)) ++ rest)
      have headAt : load data pre.length = .ok head := load_append _ _ _
      have deltaAt := readExtended_spec deltaField data (pre ++ [head])
        (lengthExt ++ (bytes ++ rest)) (pre.length + 1) (by simp [data]) (by simp)
      have lengthAt := readExtended_spec lengthField data (pre ++ (head :: deltaExt))
        (bytes ++ rest) (pre.length + 1 + deltaExt.length) (by simp [data]) (by simp; omega)
      obtain ⟨v, valueAt, holds⟩ := optionValue_spec (iterator.option.number + UInt32.ofNat delta)
        data (pre ++ (head :: (deltaExt ++ lengthExt))) bytes rest
        (pre.length + 1 + deltaExt.length + lengthExt.length) (by simp [data]) (by simp; omega)
      have landed : pre.length + 1 + deltaExt.length + lengthExt.length + bytes.length =
          pre.length + (head :: (deltaExt ++ (lengthExt ++ bytes))).length := by
        simp
        omega
      change ∃ value, stepOptionIterator_ data iterator = _ ∧ _
      simp only [stepOptionIterator_, place, started, if_false, headAt, ok_bind,
        Bytes.high_nibble, Bytes.low_nibble, notReserved, deltaAt, lengthAt, landed]
      by_cases through : iterator.filter = 0 ∨
          iterator.filter = iterator.option.number + UInt32.ofNat delta
      · exact ⟨v, by simp only [through, if_true, valueAt, ok_bind, pure_ok], fun _ => holds⟩
      · exact ⟨iterator.option.value, by simp only [through, if_false, ok_bind, pure_ok],
          fun h => absurd h through⟩

/-- At the end of the options, on the marker or past the last byte, it gives the sentinel. -/
theorem step_end (pre tail : List UInt8) (ends : Ends tail) (iterator : OptionIterator)
    (place : iterator.location = pre.length)
    (stop : iterator.endLocation = pre.length + min 1 tail.length) :
    stepOptionIterator_ (pre ++ tail) iterator =
      .ok { iterator with option := ⟨optionNone, .empty⟩ } := by
  rcases ends with rfl | marker
  · simp [stepOptionIterator_, place, stop]
  · cases tail with
    | nil => simp at marker
    | cons b rest =>
        obtain rfl : b = 0xFF := by simpa using marker
        have headAt := load_append pre 0xFF rest
        have started : ¬ pre.length ≥ iterator.endLocation := by simp [stop]
        simp only [stepOptionIterator_, place, started, if_false, headAt, ok_bind]
        rfl

/-! ## Whole iterations -/

/-- The iterator stands before the given options, with the numbers up to `n` behind it. -/
structure Stands (data : List UInt8) (iterator : OptionIterator) (n : Nat)
    (options : List WireOption) : Prop where
  number : iterator.option.number = UInt32.ofNat n
  split : ∃ pre bytes tail, data = pre ++ (bytes ++ tail) ∧ OptionsBytes options bytes ∧
    Ends tail ∧ iterator.location = pre.length ∧
    iterator.endLocation = pre.length + bytes.length + min 1 tail.length

/-- One unchecked step from a standing iterator: the end, or the next option. -/
theorem Stands.step_cases (stands : Stands data iterator n options) :
    (options = [] ∧
      stepOptionIterator_ data iterator = .ok { iterator with option := ⟨optionNone, .empty⟩ }) ∨
    ∃ option others next, options = option :: others ∧
      stepOptionIterator_ data iterator = .ok next ∧
      Stands data next (n + option.delta) others ∧ next.filter = iterator.filter ∧
      (iterator.filter = 0 ∨ iterator.filter = next.option.number →
        Holds next.option.number option.value next.option.value) := by
  obtain ⟨pre, bytes, tail, rfl, field, ends, place, stop⟩ := stands.split
  cases field with
  | nil => exact .inl ⟨rfl, step_end pre tail ends iterator place (by simpa using stop)⟩
  | @cons option used options rest first others =>
      have consumed := first.length_pos
      simp only [List.length_append] at stop
      obtain ⟨value, stepped, holds⟩ :=
        step_option first pre (rest ++ tail) iterator place (by omega)
      have number : iterator.option.number + UInt32.ofNat option.delta =
          UInt32.ofNat (n + option.delta) := by rw [stands.number, UInt32.ofNat_add]
      rw [← List.append_assoc used] at stepped
      refine .inr ⟨option, options, _, rfl, stepped, ?_, rfl, holds⟩
      exact
        { number := number
          split := ⟨pre ++ used, rest, tail, by simp, others, ends, by simp,
            by simp only [List.length_append, stop]; omega⟩ }

theorem OptionsBytes_length_le (field : OptionsBytes options bytes) :
    options.length ≤ bytes.length := by
  induction field with
  | nil => simp
  | cons first _ ih =>
      have consumed := first.length_pos
      simp only [List.length_append, List.length_cons]
      omega

/-- An option takes at least one byte, so the iterator has that many steps to go. -/
theorem Stands.length_le (stands : Stands data iterator n options) :
    options.length ≤ iterator.endLocation - iterator.location := by
  obtain ⟨pre, bytes, tail, -, field, -, place, stop⟩ := stands.split
  have size := OptionsBytes_length_le field
  omega

/-- What a full step comes to: the sentinel when nothing more is seen, else the first
    option seen, with the iterator standing behind it. -/
def Advances (data : List UInt8) (filter : UInt32) (n : Nat) (options : List WireOption)
    (next : OptionIterator) : Prop :=
  (seen filter (numbered n options) = [] ∧ next.option.number = optionNone) ∨
  ∃ option value n' others,
    seen filter (numbered n options) = (n', value) :: seen filter (numbered n' others) ∧
    option = next.option ∧ option.number ≠ optionNone ∧ Holds option.number value option.value ∧
    Stands data next n' others ∧ next.filter = filter ∧ others.length < options.length

theorem Stands.unfiltered (stands : Stands data iterator n options) (open_ : iterator.filter = 0) :
    ∃ next, stepOptionIterator_ data iterator = .ok next ∧ Advances data 0 n options next := by
  rcases stands.step_cases with ⟨rfl, stepped⟩ | ⟨option, others, next, rfl, stepped, behind, kept, holds⟩
  · exact ⟨_, stepped, .inl ⟨rfl, rfl⟩⟩
  · refine ⟨next, stepped, ?_⟩
    by_cases sentinel : IsSentinel (n + option.delta, option.value)
    · refine .inl ⟨by simp [numbered, seen_cons, sentinel], ?_⟩
      rw [behind.number]
      exact (ofNat_eq_zero _).mpr sentinel
    · refine .inr ⟨_, option.value, n + option.delta, others, ?_, rfl, ?_, ?_, behind, ?_, ?_⟩
      · simp [numbered, seen_cons, sentinel]
      · rw [behind.number]
        exact fun h => sentinel ((ofNat_eq_zero _).mp h)
      · exact holds (.inl open_)
      · rw [kept, open_]
      · simp

theorem Stands.filtered (stands : Stands data iterator n options) (closed : iterator.filter ≠ 0)
    (fuel : Nat) (enough : options.length < fuel) :
    ∃ next, stepToFilter data fuel iterator = .ok next ∧
      Advances data iterator.filter n options next := by
  induction fuel generalizing iterator n options with
  | zero => omega
  | succ fuel ih =>
      rcases stands.step_cases with
        ⟨rfl, stepped⟩ | ⟨option, others, next, rfl, stepped, behind, kept, holds⟩
      · exact ⟨{ iterator with option := ⟨optionNone, .empty⟩ }, by simp [stepToFilter, stepped],
          .inl ⟨rfl, rfl⟩⟩
      · by_cases sentinel : IsSentinel (n + option.delta, option.value)
        · have none : next.option.number = optionNone := by
            rw [behind.number]
            exact (ofNat_eq_zero _).mpr sentinel
          exact ⟨next, by simp [stepToFilter, stepped, none],
            .inl ⟨by simp [numbered, seen_cons, sentinel], none⟩⟩
        · have some_ : next.option.number ≠ optionNone := by
            rw [behind.number]
            exact fun h => sentinel ((ofNat_eq_zero _).mp h)
          by_cases hit : next.option.number = iterator.filter
          · have low : (n + option.delta) % 2 ^ 32 = iterator.filter.toNat := by
              rw [← hit, behind.number, UInt32.toNat_ofNat']
            refine ⟨next, by simp [stepToFilter, stepped, hit, kept], .inr ⟨_, option.value,
              n + option.delta, others, ?_, rfl, some_, holds (.inr hit.symm), behind, kept, ?_⟩⟩
            · rw [numbered, seen_cons, if_neg sentinel, if_pos (.inr low)]
            · simp
          · have miss : ¬ (iterator.filter = 0 ∨
                (n + option.delta) % 2 ^ 32 = iterator.filter.toNat) := by
              rintro (h | h)
              · exact closed h
              · exact hit (by rw [behind.number]; exact (ofNat_eq _ _).mpr h)
            simp only [List.length_cons] at enough
            obtain ⟨last, looped, advances⟩ := ih behind (by rwa [kept]) (by omega)
            rw [kept] at advances
            refine ⟨last, by simpa [stepToFilter, stepped, some_, hit, kept] using looped, ?_⟩
            have skip : seen iterator.filter (numbered n (option :: others)) =
                seen iterator.filter (numbered (n + option.delta) others) := by
              rw [numbered, seen_cons, if_neg sentinel, if_neg miss]
            rcases advances with ⟨nothing, none⟩ | ⟨o, v, n', rest, first, same, real, shows, st, fl, less⟩
            · exact .inl ⟨skip.trans nothing, none⟩
            · exact .inr ⟨o, v, n', rest, skip.trans first, same, real, shows, st, fl,
                by simp only [List.length_cons]; omega⟩

theorem Stands.advances (stands : Stands data iterator n options) :
    ∃ next, stepOptionIterator data iterator = .ok next ∧
      Advances data iterator.filter n options next := by
  by_cases open_ : iterator.filter = 0
  · simpa [stepOptionIterator, open_] using stands.unfiltered open_
  · have size := stands.length_le
    simpa [stepOptionIterator, open_] using stands.filtered open_ _ (Nat.lt_succ_of_le size)

/-- The number and value of a seen option, in 32 bits. -/
def ShowsLow (option : Nat × List UInt8) (shown : MessageOption) : Prop :=
  shown.number.toNat = option.1 % 2 ^ 32 ∧ Holds shown.number option.2 shown.value

/-- The caller's loop visits what is seen, in order, and ends. -/
theorem visitOptionsFrom_spec {data : List UInt8} {filter : UInt32} {n : Nat}
    {options : List WireOption} {next : OptionIterator}
    (advances : Advances data filter n options next) (fuel : Nat) (enough : options.length < fuel) :
    ∃ visited, visitOptionsFrom data fuel next = .ok visited ∧
      List.Forall₂ ShowsLow (seen filter (numbered n options)) visited := by
  induction fuel generalizing n options next with
  | zero => omega
  | succ fuel ih =>
      rcases advances with ⟨nothing, none⟩ |
        ⟨option, value, n', others, first, same, real, holds, behind, kept, less⟩
      · exact ⟨[], by simp [visitOptionsFrom, none], by rw [nothing]; exact .nil⟩
      · subst same
        obtain ⟨after, stepped, advances⟩ := behind.advances
        rw [kept] at advances
        obtain ⟨visited, looped, shows⟩ := ih advances (by omega)
        refine ⟨next.option :: visited, by simp [visitOptionsFrom, real, stepped, looped], ?_⟩
        rw [first]
        refine .cons ⟨?_, holds⟩ shows
        rw [behind.number, UInt32.toNat_ofNat']

theorem visitOptions_split (view : Message) (pre bytes tail : List UInt8)
    (options : List WireOption) (field : OptionsBytes options bytes) (ends : Ends tail)
    (first : UInt8) (head : pre.head? = some first) (place : 4 + first.toNat % 16 = pre.length)
    (split : view.data = pre ++ (bytes ++ tail))
    (stop : view.payloadOffset = pre.length + bytes.length + min 1 tail.length)
    (filter : UInt32) :
    ∃ visited, view.visitOptions filter = .ok visited ∧
      List.Forall₂ ShowsLow (seen filter (numbered 0 options)) visited := by
  obtain ⟨others, rfl⟩ : ∃ others, pre = first :: others := by
    cases pre with
    | nil => simp at head
    | cons b others => exact ⟨others, by simpa using head⟩
  have firstByte : load (first :: others ++ (bytes ++ tail)) 0 = .ok first := rfl
  let start : OptionIterator :=
    { option := ⟨0, .empty⟩
      filter := filter
      location := (first :: others).length
      endLocation := (first :: others).length + bytes.length + min 1 tail.length }
  have stands : Stands (first :: others ++ (bytes ++ tail)) start 0 options :=
    { number := rfl
      split := ⟨first :: others, bytes, tail, rfl, field, ends, rfl, rfl⟩ }
  obtain ⟨next, stepped, advances⟩ := stands.advances
  have count := OptionsBytes_length_le field
  obtain ⟨visited, looped, shows⟩ := visitOptionsFrom_spec advances
    ((first :: others ++ (bytes ++ tail)).length + 1) (by simp only [List.length_append]; omega)
  refine ⟨visited, ?_, shows⟩
  simp only [Message.visitOptions, Message.initOptionIterator, firstByte, ok_bind,
    Bytes.low_nibble, place, split, stop]
  change (stepOptionIterator _ start >>= fun iterator => visitOptionsFrom _ _ iterator) = _
  rw [stepped]
  exact looped

/-- The bytes the iterator may look at: those before the payload. -/
def Message.beforePayload (self : Message) : Message :=
  { self with data := self.data.take self.payloadOffset }

/-- The iterator visits exactly these options, also when nothing at or past the payload
    offset can be read. -/
def VisitsExactly (message : Message) (filter : UInt32) (options : List (Nat × List UInt8)) :
    Prop :=
  ∀ view ∈ [message, message.beforePayload],
    ∃ visited, view.visitOptions filter = .ok visited ∧
      List.Forall₂ Shows (options.filter (fun o => Matches filter o.1)) visited

/-- What the iterator visits on an accepted datagram, with and without the payload. -/
theorem visitOptions_accepted (wireBytes : MessageBytes wire datagram) (filter : UInt32)
    (accepted : createFromDatagram datagram = .ok (.ok message)) :
    ∀ view ∈ [message, message.beforePayload],
      ∃ visited, view.visitOptions filter = .ok visited ∧
        List.Forall₂ ShowsLow (seen filter (numbered 0 wire.options)) visited := by
  rw [createFromDatagram_complete wireBytes] at accepted
  obtain rfl := by simpa using accepted
  cases wireBytes with
  | @mk first code idHi idLo token optionBytes payload payloadBytes options version announced
      short optionsField payloadField =>
      let pre := first :: code :: idHi :: idLo :: token
      have place : 4 + first.toNat % 16 = pre.length := by
        simp only [announced, pre, List.length_cons]
        omega
      intro view member
      cases payloadField with
      | absent =>
          have stop : (pre ++ (optionBytes ++ [])).length - 0 =
              pre.length + optionBytes.length + min 1 0 := by simp
          rcases List.mem_pair.mp member with rfl | rfl
          · exact visitOptions_split _ pre optionBytes [] options optionsField (.inl rfl) first rfl
              place rfl stop filter
          · refine visitOptions_split _ pre optionBytes [] options optionsField (.inl rfl) first rfl
              place ?_ stop filter
            exact List.take_of_length_le (by simp)
      | marked nonempty =>
          have offset : (pre ++ (optionBytes ++ 0xFF :: payload)).length - payload.length =
              (pre ++ (optionBytes ++ [0xFF])).length := by
            simp only [List.length_append, List.length_cons, List.length_nil]
            omega
          have stop : (pre ++ (optionBytes ++ 0xFF :: payload)).length - payload.length =
              pre.length + optionBytes.length + min 1 (payload.length + 1) := by
            simp only [List.length_append, List.length_cons]
            omega
          rcases List.mem_pair.mp member with rfl | rfl
          · exact visitOptions_split _ pre optionBytes (0xFF :: payload) options optionsField
              (.inr rfl) first rfl place rfl stop filter
          · refine visitOptions_split _ pre optionBytes [0xFF] options optionsField (.inr rfl)
              first rfl place ?_ (stop.trans (by simp)) filter
            change (pre ++ (optionBytes ++ 0xFF :: payload)).take
              ((pre ++ (optionBytes ++ 0xFF :: payload)).length - payload.length) = _
            have split : pre ++ (optionBytes ++ 0xFF :: payload) =
                (pre ++ (optionBytes ++ [0xFF])) ++ payload := by simp
            rw [offset, split, List.take_left]

/-! ## When the two decoders agree -/

/-- No option that the filter lets through stands at or behind a sentinel number, and
    none in front of it is taken for one by its low 32 bits. -/
def Clear (filter : UInt32) (options : List (Nat × List UInt8)) : Prop :=
  (∀ o ∈ fromSentinel options, ¬ Matches filter o.1) ∧
  ∀ o ∈ beforeSentinel options,
    (filter = 0 ∨ o.1 % 2 ^ 32 = filter.toNat) → o.1 < 2 ^ 32

instance (filter : UInt32) (options : List (Nat × List UInt8)) :
    Decidable (Clear filter options) := inferInstanceAs (Decidable (_ ∧ _))

theorem sentinel_split (options : List (Nat × List UInt8)) :
    beforeSentinel options ++ fromSentinel options = options :=
  List.takeWhile_append_dropWhile

theorem not_sentinel_of_before {options : List (Nat × List UInt8)}
    (member : o ∈ beforeSentinel options) : ¬ IsSentinel o := by
  simpa using List.mem_takeWhile_imp member

theorem sentinel_of_from {options : List (Nat × List UInt8)}
    (starts : fromSentinel options = d :: rest) : IsSentinel d := by
  have head := List.head?_dropWhile_not (fun o => decide (¬ IsSentinel o)) options
  rw [show options.dropWhile (fun o => decide (¬ IsSentinel o)) = d :: rest from starts] at head
  simpa using head

theorem numbered_lower (n : Nat) (options : List WireOption) :
    ∀ o ∈ numbered n options, n ≤ o.1 := by
  induction options generalizing n with
  | nil => simp [numbered]
  | cons option options ih =>
      intro o member
      rcases List.mem_cons.mp member with rfl | later
      · simp
      · exact le_trans (Nat.le_add_right _ _) (ih _ o later)

theorem numbered_sorted (n : Nat) (options : List WireOption) :
    (numbered n options).Pairwise (fun a b => a.1 ≤ b.1) := by
  induction options generalizing n with
  | nil => exact .nil
  | cons option options ih => exact .cons (fun o member => numbered_lower _ _ o member) (ih _)

theorem Matches.through (h : Matches filter number) :
    filter = 0 ∨ number % 2 ^ 32 = filter.toNat := by
  refine h.imp id fun same => ?_
  rw [same]
  exact Nat.mod_eq_of_lt filter.toNat_lt

theorem Clear.seen_eq (clear : Clear filter options) :
    seen filter options = options.filter (fun o => Matches filter o.1) := by
  have behind : (fromSentinel options).filter (fun o => Matches filter o.1) = [] := by
    rw [List.filter_eq_nil_iff]
    intro o member
    simpa using clear.1 o member
  conv_rhs => rw [← sentinel_split options, List.filter_append, behind, List.append_nil]
  refine List.filter_congr fun o member => ?_
  rw [decide_eq_decide]
  refine ⟨fun through => ?_, Matches.through⟩
  have small := clear.2 o member through
  exact through.imp id fun low => by rwa [Nat.mod_eq_of_lt small] at low

theorem numbers_of_shows {options : List (Nat × List UInt8)} {visited : List MessageOption}
    (shows : List.Forall₂ Shows options visited) :
    options.map (·.1) = visited.map (·.number.toNat) := by
  induction shows with
  | nil => rfl
  | cons first _ ih => simp [first.1, ih]

theorem numbers_of_showsLow {options : List (Nat × List UInt8)} {visited : List MessageOption}
    (shows : List.Forall₂ ShowsLow options visited) :
    options.map (·.1 % 2 ^ 32) = visited.map (·.number.toNat) := by
  induction shows with
  | nil => rfl
  | cons first _ ih => simp only [List.map_cons, first.1, ih]

theorem mem_seen : o ∈ seen filter options ↔
    o ∈ beforeSentinel options ∧ (filter = 0 ∨ o.1 % 2 ^ 32 = filter.toNat) := by
  simp [seen]

/-- Numbers alone decide: if those seen are those that match, nothing was hidden or mistaken. -/
theorem clear_of_numbers {options : List (Nat × List UInt8)}
    (sorted : options.Pairwise (fun a b => a.1 ≤ b.1))
    (same : (options.filter (fun o => Matches filter o.1)).map (·.1) =
      (seen filter options).map (·.1 % 2 ^ 32)) : Clear filter options := by
  have ordered := sorted
  rw [← sentinel_split options, List.pairwise_append] at ordered
  have found : ∀ o ∈ options, Matches filter o.1 →
      ∃ s ∈ beforeSentinel options, s.1 % 2 ^ 32 = o.1 := by
    intro o member hit
    have listed : o.1 ∈ (seen filter options).map (·.1 % 2 ^ 32) := by
      rw [← same]
      exact List.mem_map_of_mem (List.mem_filter.mpr ⟨member, by simpa using hit⟩)
    obtain ⟨s, inSeen, equal⟩ := List.mem_map.mp listed
    exact ⟨s, (mem_seen.mp inSeen).1, equal⟩
  have hidden : ∀ o ∈ fromSentinel options, ¬ Matches filter o.1 := by
    intro o member hit
    obtain ⟨s, front, equal⟩ := found o ((List.dropWhile_sublist _).subset member) hit
    have real : ¬ s.1 % 2 ^ 32 = 0 := not_sentinel_of_before front
    have before := ordered.2.2 s front
    have order := ordered.2.1
    cases behind : fromSentinel options with
    | nil => simp [behind] at member
    | cons d rest =>
        have sentinel : d.1 % 2 ^ 32 = 0 := sentinel_of_from behind
        have first : s.1 ≤ d.1 := before d (by simp [behind])
        rw [behind] at member order
        have later : d.1 ≤ o.1 := by
          rcases List.mem_cons.mp member with rfl | tail
          · exact le_rfl
          · exact (List.pairwise_cons.mp order).1 o tail
        omega
  refine ⟨hidden, fun o front through => ?_⟩
  by_contra large
  by_cases any : filter = 0
  · obtain ⟨s, -, equal⟩ := found o ((List.takeWhile_sublist _).subset front) (.inl any)
    omega
  · -- with a filter the counts differ: this option is seen but does not match
    have count := congrArg List.length same
    have none : (fromSentinel options).filter (fun o => Matches filter o.1) = [] := by
      rw [List.filter_eq_nil_iff]
      intro o member
      simpa using hidden o member
    have kept : options.filter (fun o => Matches filter o.1) =
        (seen filter options).filter (fun o => Matches filter o.1) := by
      conv_lhs => rw [← sentinel_split options, List.filter_append, none, List.append_nil]
      rw [seen, List.filter_filter]
      refine List.filter_congr fun o _ => ?_
      by_cases hit : Matches filter o.1
      · simpa [hit] using hit.through
      · simp [hit]
    have fewer : ((seen filter options).filter (fun o => Matches filter o.1)).length <
        (seen filter options).length := by
      rw [List.length_filter_lt_length_iff_exists]
      refine ⟨o, mem_seen.mpr ⟨front, through⟩, ?_⟩
      have bound := filter.toNat_lt
      simp only [Matches, any, false_or, decide_eq_true_eq]
      omega
    simp only [List.length_map, kept] at count
    omega

/-- Clear options are visited as the parser validated them. -/
theorem visits_of_clear {wire : WireMessage} {datagram : List UInt8} {message : Message}
    {filter : UInt32} (accepted : createFromDatagram datagram = .ok (.ok message))
    (validated : MessageBytes wire datagram) (clear : Clear filter (numbered 0 wire.options)) :
    VisitsExactly message filter (numbered 0 wire.options) := by
  intro view member
  obtain ⟨visited, looped, low⟩ := visitOptions_accepted validated filter accepted view member
  refine ⟨visited, looped, ?_⟩
  rw [← clear.seen_eq]
  have small : ∀ o ∈ seen filter (numbered 0 wire.options), o.1 < 2 ^ 32 := by
    intro o inSeen
    obtain ⟨front, through⟩ := mem_seen.mp inSeen
    exact clear.2 o front through
  refine ((List.forall₂_and_left _ _).mpr ⟨small, low⟩).imp ?_
  rintro o shown ⟨below, number, holds⟩
  exact ⟨number.trans (Nat.mod_eq_of_lt below), holds⟩

/-- On every accepted datagram the iterator agrees with the parser exactly when the
    options are clear of the sentinel number. -/
theorem visits_validated_iff_clear {wire : WireMessage} {datagram : List UInt8}
    {message : Message} (filter : UInt32)
    (accepted : createFromDatagram datagram = .ok (.ok message))
    (validated : MessageBytes wire datagram) :
    VisitsExactly message filter (numbered 0 wire.options) ↔
      Clear filter (numbered 0 wire.options) := by
  refine ⟨fun exactly_ => ?_, visits_of_clear accepted validated⟩
  obtain ⟨visited, looped, shows⟩ := exactly_ message (by simp)
  obtain ⟨visited', looped', low⟩ :=
    visitOptions_accepted validated filter accepted message (by simp)
  obtain rfl : visited = visited' := by
    rw [looped] at looped'
    simpa using looped'
  refine clear_of_numbers (numbered_sorted 0 wire.options) ?_
  rw [numbers_of_shows shows, numbers_of_showsLow low]

/-- An option with number 0, then a Uri-Path. -/
def hiddenPath : List UInt8 := [0x40, 0x01, 0, 0, 0x00, 0xB1, 0x61]

theorem hiddenPath_bytes : MessageBytes ⟨0, 1, 0, [], [⟨0, []⟩, ⟨11, [0x61]⟩], []⟩ hiddenPath := by
  have zero : OptionBytes ⟨0, []⟩ [0x00] :=
    @OptionBytes.mk 0x00 [] [] [] 0 (.short (by decide)) (.short (by decide))
  have path : OptionBytes ⟨11, [0x61]⟩ [0xB1, 0x61] :=
    @OptionBytes.mk 0xB1 [] [] [0x61] 11 (.short (by decide)) (.short (by decide))
  exact @MessageBytes.mk 0x40 1 0 0 [] _ [] [] _ (by decide) (by decide) (by decide)
    (.cons zero (.cons path .nil)) .absent

/-- The parser accepts both options; the iterator ends before the first. -/
theorem visits_nothing_behind_zero :
    ∃ message, createFromDatagram hiddenPath = .ok (.ok message) ∧
      MessageBytes ⟨0, 1, 0, [], [⟨0, []⟩, ⟨11, [0x61]⟩], []⟩ hiddenPath ∧
      message.visitOptions 11 = .ok [] ∧
      ¬ VisitsExactly message 11 (numbered 0 [⟨0, []⟩, ⟨11, [0x61]⟩]) := by
  refine ⟨⟨hiddenPath, 7, 0⟩, by decide, hiddenPath_bytes, by decide, fun visits => ?_⟩
  obtain ⟨visited, looped, shows⟩ := visits _ List.mem_cons_self
  have nothing : (Message.mk hiddenPath 7 0).visitOptions 11 = .ok [] := by decide
  obtain rfl : [] = visited := by
    rw [nothing] at looped
    simpa using looped
  have none : (numbered 0 [⟨0, []⟩, ⟨11, [0x61]⟩]).filter (fun o => Matches 11 o.1) = [] := by
    simpa using shows
  exact absurd none (by decide)

/-- Without the option number 0, the Uri-Path is visited. -/
theorem visits_path :
    VisitsExactly ⟨[0x40, 0x01, 0, 0, 0xB1, 0x61], 6, 0⟩ 0 (numbered 0 [⟨11, [0x61]⟩]) := by
  have path : OptionBytes ⟨11, [0x61]⟩ [0xB1, 0x61] :=
    @OptionBytes.mk 0xB1 [] [] [0x61] 11 (.short (by decide)) (.short (by decide))
  have wire : MessageBytes ⟨0, 1, 0, [], [⟨11, [0x61]⟩], []⟩ [0x40, 0x01, 0, 0, 0xB1, 0x61] :=
    @MessageBytes.mk 0x40 1 0 0 [] _ [] [] _ (by decide) (by decide) (by decide)
      (.cons path .nil) .absent
  exact (visits_validated_iff_clear 0 (by decide) wire).mpr (by decide)

end GoldenGate.Coap
