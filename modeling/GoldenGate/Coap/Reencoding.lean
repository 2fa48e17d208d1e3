import GoldenGate.Coap.Creation

/-! # Options that are passed on

What the iterator shows of a datagram are options that can be passed to `GG_CoapMessage_Create`,
as they are, or after `GG_Coap_CloneOptions` of `gg_coap.c` has copied their values. A `UINT` is
passed on as an integer and an `EMPTY` option without its value, if it has one.
-/

namespace GoldenGate.Coap

open Memory Grammar

def maxOptionCount : Nat := 1024
def maxOptionSize : Nat := 269 + 65536

/-! ## Clones -/

/-- The bytes that the copy of a value takes. -/
def clonedSize : OptionValue → Access Nat
  | .string chars length =>
      if length ≠ 0 then return length
      else
        match chars with
        | some chars => strlen chars
        | none => .error .outOfBounds
  | .bytes _ size => return size
  | _ => return 0

/-- The first pass: the size of all copies, or nothing when a value is too large. -/
def clonedSizes (size : Nat) : List MessageOption → Access (Option Nat)
  | [] => return some size
  | option :: options => do
      let optionSize ← clonedSize option.value
      if optionSize > maxOptionSize then return none
      clonedSizes (size + optionSize) options

/-- The bytes that are copied. -/
def clonedBytes (value : OptionValue) : Access (List UInt8) := do
  let size ← clonedSize value
  match value with
  | .string (some chars) _ => readBytes chars size
  | .bytes (some bytes) _ => readBytes bytes size
  | _ => if size = 0 then return [] else .error .outOfBounds

/-- The copies, one behind the other. -/
def copiedData : List MessageOption → Access (List UInt8)
  | [] => return []
  | option :: options => do
      let bytes ← clonedBytes option.value
      return bytes ++ (← copiedData options)

/-- The value points to its copy, and has its length. -/
def OptionValue.withData (value : OptionValue) (data : List UInt8) (size : Nat) : OptionValue :=
  match value with
  | .string _ _ => .string (some data) size
  | .bytes _ _ => .bytes (some data) size
  | value => value

/-- The second pass, where the data starts with the copy of the first value. -/
def cloneValues (data : List UInt8) : List MessageOption → Access (List MessageOption)
  | [] => return []
  | option :: options => do
      let size ← clonedSize option.value
      return { option with value := option.value.withData data size } ::
        (← cloneValues (data.drop size) options)

/-- `GG_Coap_CloneOptions`. -/
def cloneOptions (options : List MessageOption) : Access (Option (List MessageOption)) := do
  if options.length > maxOptionCount then return none
  match ← clonedSizes 0 options with
  | none => return none
  | some _ => return some (← cloneValues (← copiedData options) options)

/-! ## What is left of an option -/

/-- What is passed on of the value of an option: of a `UINT` the integer, of an `EMPTY` option
    nothing. -/
def reencoded (option : Nat × List UInt8) : Nat × List UInt8 :=
  (option.1,
    match optionType (UInt32.ofNat option.1) with
    | .empty => []
    | .uint => wireValue (.uint (uintValue option.2))
    | _ => option.2)

/-- Any message that is created with the options has the same numbers in the same order, and what
    is passed on of the values. -/
def Reencodes (original : List (Nat × List UInt8)) (options : List MessageOption) : Prop :=
  ∀ (code : UInt8) (type : MessageType) (messageId : UInt16) (token : List UInt8)
    (payload : Option (List UInt8)) (payloadSize : Nat), token.length ≤ maxTokenLength →
    ReadablePayload payload payloadSize →
    ∃ message wire, create code type options messageId token payload payloadSize = .ok (.ok message) ∧
      MessageBytes wire message.toDatagram ∧ numbered 0 wire.options = original.map reencoded

/-- The string options have a value. -/
def NoEmptyString (options : List (Nat × List UInt8)) : Prop :=
  ∀ o ∈ options, optionType (UInt32.ofNat o.1) = .string → o.2 ≠ []

/-- The number of the option is its own. -/
theorem Shows.number_eq (shows : Shows option shown) : UInt32.ofNat option.1 = shown.number := by
  rw [← shows.1, UInt32.ofNat_toNat]

theorem Shows.readable (shows : Shows option shown)
    (isString : optionType (UInt32.ofNat option.1) = .string → option.2 ≠ []) :
    Readable shown.value := by
  have holds := shows.2
  rw [shows.number_eq] at isString
  unfold Holds at holds
  cases type : optionType shown.number with
  | empty | uint =>
      rw [type] at holds
      rw [holds]
      trivial
  | string =>
      rw [type] at holds
      obtain ⟨chars, isValue, same⟩ := holds
      have some_ : option.2.length ≠ 0 := fun none => isString type (List.length_eq_zero_iff.mp none)
      have size := congrArg List.length same
      rw [List.length_take] at size
      rw [isValue, Readable, if_neg some_]
      omega
  | bytes =>
      rw [type] at holds
      obtain ⟨bytes, isValue, same⟩ := holds
      have size := congrArg List.length same
      rw [List.length_take] at size
      rw [isValue, Readable]
      omega

theorem Shows.wireValue_eq (shows : Shows option shown)
    (isString : optionType (UInt32.ofNat option.1) = .string → option.2 ≠ []) :
    wireValue shown.value = (reencoded option).2 := by
  have holds := shows.2
  unfold reencoded
  rw [shows.number_eq] at isString ⊢
  unfold Holds at holds
  cases type : optionType shown.number with
  | empty =>
      rw [type] at holds
      rw [holds]
      rfl
  | uint =>
      rw [type] at holds
      rw [holds]
  | string =>
      rw [type] at holds
      obtain ⟨chars, isValue, same⟩ := holds
      have some_ : option.2.length ≠ 0 := fun none => isString type (List.length_eq_zero_iff.mp none)
      rw [isValue]
      change passedText chars option.2.length = _
      rw [passedText, if_neg some_]
      exact same
  | bytes =>
      rw [type] at holds
      obtain ⟨bytes, isValue, same⟩ := holds
      rw [isValue, wireValue]
      exact same

theorem reencoded_length_le (option : Nat × List UInt8) (fits : option.2.length ≤ maxField) :
    (reencoded option).2.length ≤ maxField := by
  unfold reencoded
  cases optionType (UInt32.ofNat option.1) with
  | empty => exact Nat.zero_le _
  | uint =>
      change (wireValue (.uint (uintValue option.2))).length ≤ _
      rw [length_uint, uintLength]
      split_ifs <;> decide
  | string => exact fits
  | bytes => exact fits

/-! ## All options -/

theorem exists_of_shows {options : List (Nat × List UInt8)} {shown : List MessageOption}
    (shows : List.Forall₂ Shows options shown) (member : o ∈ shown) :
    ∃ p ∈ options, Shows p o := by
  induction shows with
  | nil => exact nomatch member
  | cons first _ ih =>
      cases List.mem_cons.mp member with
      | inl equal => exact ⟨_, List.mem_cons_self, equal ▸ first⟩
      | inr later =>
          obtain ⟨p, inside, same⟩ := ih later
          exact ⟨p, List.mem_cons_of_mem _ inside, same⟩

theorem map_reencoded {options : List (Nat × List UInt8)} {shown : List MessageOption}
    (shows : List.Forall₂ Shows options shown) (strings : NoEmptyString options) :
    shown.map (fun o => (o.number.toNat, wireValue o.value)) = options.map reencoded := by
  induction shows with
  | nil => rfl
  | @cons option o options shown first _ ih =>
      have value := first.wireValue_eq (strings option List.mem_cons_self)
      rw [List.map_cons, List.map_cons, ih fun p member => strings p (List.mem_cons_of_mem _ member),
        first.1, value]
      rfl

theorem value_mem_numbered {options : List WireOption} {n : Nat} (member : p ∈ numbered n options) :
    ∃ o ∈ options, o.value = p.2 := by
  induction options generalizing n with
  | nil => exact nomatch member
  | cons option options ih =>
      cases List.mem_cons.mp member with
      | inl equal => exact ⟨option, List.mem_cons_self, equal ▸ rfl⟩
      | inr later =>
          obtain ⟨o, inside, same⟩ := ih later
          exact ⟨o, List.mem_cons_of_mem _ inside, same⟩

theorem length_numbered (options : List WireOption) (n : Nat) :
    (numbered n options).length = options.length := by
  induction options generalizing n with
  | nil => rfl
  | cons option options ih => rw [numbered, List.length_cons, List.length_cons, ih]

/-- The same numbers are the same distances. -/
theorem deltas_eq {a b : List WireOption} {n : Nat}
    (same : (numbered n a).map (·.1) = (numbered n b).map (·.1)) : a.map (·.delta) = b.map (·.delta) := by
  induction a generalizing b n with
  | nil =>
      cases b with
      | nil => rfl
      | cons y b => exact nomatch same
  | cons x a ih =>
      cases b with
      | nil => exact nomatch same
      | cons y b =>
          simp only [numbered, List.map_cons, List.cons.injEq] at same
          obtain ⟨number, rest⟩ := same
          have delta : x.delta = y.delta := Nat.add_left_cancel number
          rw [delta] at rest
          rw [List.map_cons, List.map_cons, delta, ih rest]

/-- The bytes of the values are in the datagram, and one more for each option. -/
theorem valuesLength_le (field : OptionsBytes options bytes) :
    (options.map (·.value.length + 1)).sum ≤ bytes.length := by
  induction field with
  | nil => exact Nat.zero_le _
  | cons first _ ih =>
      cases first
      simp only [List.map_cons, List.sum_cons, List.length_append, List.length_cons]
      omega

theorem MessageBytes.length_ge (bytes : MessageBytes wire datagram) :
    4 + (wire.options.map (·.value.length + 1)).sum ≤ datagram.length := by
  cases bytes with
  | mk _ _ _ field _ =>
      have size := valuesLength_le field
      simp only [List.length_cons, List.length_append]
      omega

/-- Options as the iterator shows those of a datagram can be passed on. -/
theorem reencodes_of_shows {options : List WireOption} {shown : List MessageOption}
    (fits : ∀ o ∈ options, Fitting o) (strings : NoEmptyString (numbered 0 options))
    (shows : List.Forall₂ Shows (numbered 0 options) shown) :
    Reencodes (numbered 0 options) shown := by
  intro code type messageId token payload payloadSize short readablePayload
  have numbers := numbers_of_shows shows
  have ascending : shown.Pairwise (fun a b => a.number ≤ b.number) := by
    have sorted : ((numbered 0 options).map (·.1)).Pairwise (· ≤ ·) :=
      List.pairwise_map.mpr (numbered_sorted 0 options)
    rw [numbers, List.pairwise_map] at sorted
    exact sorted.imp fun le => UInt32.le_iff_toNat_le.mpr le
  have sorting : StablySorted shown shown := ⟨ascending, fun _ => rfl⟩
  have sorted : sortOptions shown = shown := (sortOptions_sorted shown).unique sorting
  have readable : ∀ o ∈ shown, Readable o.value := by
    intro o member
    obtain ⟨p, inside, isShown⟩ := exists_of_shows shows member
    exact isShown.readable (strings p inside)
  have wireNumbers : numbered 0 (wireOptions 0 shown) = (numbered 0 options).map reencoded :=
    (numbered_wireOptions ascending (fun o _ => show 0 ≤ o.number from UInt32.zero_le)).trans
      (map_reencoded shows strings)
  have fitting : ∀ o ∈ wireOptions 0 shown, Fitting o := by
    have deltas : (wireOptions 0 shown).map (·.delta) = options.map (·.delta) := by
      refine @deltas_eq _ _ 0 ?_
      rw [wireNumbers, List.map_map]
      rfl
    intro o member
    constructor
    · have found : o.delta ∈ options.map (·.delta) := deltas ▸ List.mem_map_of_mem member
      obtain ⟨original, inside, same⟩ := List.mem_map.mp found
      exact same ▸ (fits original inside).delta
    · obtain ⟨p, inShown, isValue⟩ := value_mem_wireOptions member
      obtain ⟨q, inside, isShown⟩ := exists_of_shows shows inShown
      obtain ⟨original, inOptions, same⟩ := value_mem_numbered inside
      rw [isValue, isShown.wireValue_eq (strings q inside)]
      exact reencoded_length_le q (same ▸ (fits original inOptions).value)
  have uncut : cutOptions 0 shown = wireOptions 0 shown := by
    refine cutOptions_eq (fun p inside => ?_) 0
    obtain ⟨o, member, same⟩ := mem_wireOptions_of_mem inside
    exact same ▸ (fitting o member).value.trans_lt (by decide)
  obtain ⟨bytes, message, field, created, data⟩ :=
    create_writes code type messageId token short readable readablePayload
  rw [sorted, uncut] at field
  have wireBytes := message_bytes code type messageId short (field fitting)
    (createdPayload payload payloadSize)
  rw [← data] at wireBytes
  exact ⟨message, _, created, wireBytes, wireNumbers⟩

/-! ## The clones are shown alike -/

/-- A value that is not an empty string is copied whole. -/
theorem Shows.cloned (shows : Shows option shown)
    (isString : optionType (UInt32.ofNat option.1) = .string → option.2 ≠ []) :
    ∃ bytes, clonedBytes shown.value = .ok bytes ∧ clonedSize shown.value = .ok bytes.length ∧
      bytes.length ≤ option.2.length ∧
      ∀ rest, Shows option { shown with value := shown.value.withData (bytes ++ rest) bytes.length } := by
  have holds := shows.2
  rw [shows.number_eq] at isString
  have shows_of {value : OptionValue} (holds : Holds shown.number option.2 value) :
      Shows option { shown with value := value } := ⟨shows.1, holds⟩
  unfold Holds at holds shows_of
  cases type : optionType shown.number with
  | empty | uint =>
      rw [type] at holds
      refine ⟨[], by rw [holds]; rfl, by rw [holds]; rfl, Nat.zero_le _, fun rest => shows_of ?_⟩
      rw [type, holds]
      rfl
  | string =>
      rw [type] at holds
      obtain ⟨chars, isValue, same⟩ := holds
      have some_ : option.2.length ≠ 0 := fun none => isString type (List.length_eq_zero_iff.mp none)
      have size : clonedSize shown.value = .ok option.2.length := by
        rw [isValue, clonedSize, if_pos some_]
        rfl
      have front : option.2 <+: chars := same ▸ List.take_prefix _ _
      refine ⟨option.2, ?_, size, le_rfl, fun rest => shows_of ?_⟩
      · rw [clonedBytes, size, ok_bind, isValue]
        exact readBytes_front front
      · rw [type, isValue]
        exact ⟨option.2 ++ rest, rfl, List.take_left⟩
  | bytes =>
      rw [type] at holds
      obtain ⟨bytes, isValue, same⟩ := holds
      have size : clonedSize shown.value = .ok option.2.length := by
        rw [isValue]
        rfl
      have front : option.2 <+: bytes := same ▸ List.take_prefix _ _
      refine ⟨option.2, ?_, size, le_rfl, fun rest => shows_of ?_⟩
      · rw [clonedBytes, size, ok_bind, isValue]
        exact readBytes_front front
      · rw [type, isValue]
        exact ⟨option.2 ++ rest, rfl, List.take_left⟩

/-- The passes over options that fit. -/
theorem clonePasses {options : List (Nat × List UInt8)} {shown : List MessageOption}
    (shows : List.Forall₂ Shows options shown) (strings : NoEmptyString options)
    (fits : ∀ o ∈ options, o.2.length ≤ maxOptionSize) :
    (∀ size, ∃ total, clonedSizes size shown = .ok (some total)) ∧
      ∃ data, copiedData shown = .ok data ∧ ∃ cloned, cloneValues data shown = .ok cloned ∧
        List.Forall₂ Shows options cloned := by
  induction shows with
  | nil => exact ⟨fun size => ⟨size, rfl⟩, [], rfl, [], rfl, .nil⟩
  | @cons option o options shown first _ ih =>
      obtain ⟨bytes, copies, size, short, isShown⟩ := first.cloned (strings option List.mem_cons_self)
      obtain ⟨sizes, data, copied, cloned, clones, shows⟩ :=
        ih (fun p member => strings p (List.mem_cons_of_mem _ member))
          (fun p member => fits p (List.mem_cons_of_mem _ member))
      have small : ¬ bytes.length > maxOptionSize :=
        Nat.not_lt.mpr (short.trans (fits option List.mem_cons_self))
      refine ⟨fun before => ?_, bytes ++ data, ?_, _, ?_, .cons (isShown data) shows⟩
      · obtain ⟨total, isTotal⟩ := sizes (before + bytes.length)
        refine ⟨total, ?_⟩
        rw [clonedSizes, size, ok_bind, if_neg small]
        exact isTotal
      · rw [copiedData, copies, ok_bind, copied]
        rfl
      · rw [cloneValues, size, ok_bind, List.drop_left, clones]
        rfl

/-! ## Passing on -/

/-- Options whose numbers are real, and among which there is no empty string, can be passed on as the
    iterator shows them. Their clones can be passed on as well, if there are not too many. -/
theorem options_survive {wire : WireMessage} {datagram : List UInt8} {message : Message}
    (accepted : createFromDatagram datagram = .ok (.ok message)) (validated : MessageBytes wire datagram)
    (real : ∀ o ∈ numbered 0 wire.options, 0 < o.1 ∧ o.1 < 2 ^ 32)
    (strings : NoEmptyString (numbered 0 wire.options)) :
    ∃ visited, message.visitOptions 0 = .ok visited ∧
      Reencodes (numbered 0 wire.options) visited ∧
      if maxOptionCount < wire.options.length then cloneOptions visited = .ok none
      else ∃ cloned, cloneOptions visited = .ok (some cloned) ∧
        Reencodes (numbered 0 wire.options) cloned := by
  obtain ⟨visited, looped, shows⟩ :=
    visits_of_clear accepted validated (clear_of_real real 0) _ List.mem_cons_self
  have all : (numbered 0 wire.options).filter (fun o => Matches 0 o.1) = numbered 0 wire.options :=
    List.filter_eq_self.mpr (by simp [Matches])
  rw [all] at shows
  have fits := MessageBytes.fitting validated
  refine ⟨visited, looped, reencodes_of_shows fits strings shows, ?_⟩
  have count : visited.length = wire.options.length := by
    rw [← shows.length_eq, length_numbered]
  by_cases many : maxOptionCount < wire.options.length
  · rw [if_pos many, cloneOptions, if_pos (by rwa [count])]
    rfl
  · rw [if_neg many]
    have sized : ∀ o ∈ numbered 0 wire.options, o.2.length ≤ maxOptionSize := by
      intro o member
      obtain ⟨original, inside, same⟩ := value_mem_numbered member
      exact same ▸ (fits original inside).value.trans (by decide)
    obtain ⟨sizes, data, copied, cloned, clones, isShown⟩ := clonePasses shows strings sized
    obtain ⟨total, isTotal⟩ := sizes 0
    refine ⟨cloned, ?_, reencodes_of_shows fits strings isShown⟩
    rw [cloneOptions, if_neg (by rwa [count])]
    simp only [pure_ok, isTotal, ok_bind, copied, clones]

/-- A path, and 40 as a content format that has two bytes. -/
def pathAndFormat : List UInt8 := [0x40, 1, 0, 0, 0xB1, 0x61, 0x12, 0, 40]

theorem pathAndFormat_bytes :
    MessageBytes ⟨0, 1, 0, [], [⟨11, [0x61]⟩, ⟨1, [0, 40]⟩], []⟩ pathAndFormat := by
  have path : OptionBytes ⟨11, [0x61]⟩ [0xB1, 0x61] :=
    @OptionBytes.mk 0xB1 [] [] [0x61] 11 (.short (by decide)) (.short (by decide))
  have format : OptionBytes ⟨1, [0, 40]⟩ [0x12, 0, 40] :=
    @OptionBytes.mk 0x12 [] [] [0, 40] 1 (.short (by decide)) (.short (by decide))
  exact @MessageBytes.mk 0x40 1 0 0 [] _ [] [] _ (by decide) (by decide) (by decide)
    (.cons path (.cons format .nil)) .absent

theorem options_survive_pathAndFormat :
    ∃ visited, (Message.mk pathAndFormat 9 0).visitOptions 0 = .ok visited ∧
      Reencodes [(11, [0x61]), (12, [0, 40])] visited ∧
      ∃ cloned, cloneOptions visited = .ok (some cloned) ∧
        Reencodes [(11, [0x61]), (12, [0, 40])] cloned :=
  options_survive (by decide) pathAndFormat_bytes (by decide)
    (by simp [NoEmptyString, numbered])

/-- The same options, if they are passed on as the iterator shows them. -/
def SameOptions (datagram : List UInt8) : Prop :=
  ∀ message wire visited, createFromDatagram datagram = .ok (.ok message) →
    MessageBytes wire datagram → message.visitOptions 0 = .ok visited →
    ∃ recreated wire', create 1 .con visited 0 [] none 0 = .ok (.ok recreated) ∧
      MessageBytes wire' recreated.toDatagram ∧ numbered 0 wire'.options = numbered 0 wire.options

/-- The integer of the content format is passed on, not the two bytes. -/
theorem pathAndFormat_shortened : ¬ SameOptions pathAndFormat := by
  intro same
  have shown : (Message.mk pathAndFormat 9 0).visitOptions 0 =
      .ok [⟨11, .string (some [0x61, 0x12, 0, 40]) 1⟩, ⟨12, .uint 40⟩] := by decide
  obtain ⟨recreated, wire, created, wireBytes, options⟩ :=
    same _ _ _ (by decide) pathAndFormat_bytes shown
  have data : create 1 .con [⟨11, .string (some [0x61, 0x12, 0, 40]) 1⟩, ⟨12, .uint 40⟩] 0 [] none 0 =
      .ok (.ok ⟨[0x40, 1, 0, 0, 0xB1, 0x61, 0x11, 40], 8, 0⟩) := by decide
  rw [data] at created
  obtain rfl := Except.ok.inj (Except.ok.inj created)
  have long := MessageBytes.length_ge wireBytes
  rw [numbered_inj options] at long
  exact absurd long (by decide)

/-- An empty string is taken for one that ends in a zero, and the bytes behind it are read. -/
example : ((Message.mk [0x40, 1, 0, 0, 0xB0] 5 0).visitOptions 0 >>= fun visited =>
    create 1 .con visited 0 [] none 0) = .error .outOfBounds := by decide

end GoldenGate.Coap
