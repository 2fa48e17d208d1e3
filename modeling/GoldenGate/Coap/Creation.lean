import GoldenGate.Coap.RoundTrip

/-! # What a created message carries

The result of the serializer is not looked at when a message is created. An option that is too far
from the one before it, or too long, ends the options of the message, and the caller is told of a
success. A value is also cut when its length does not fit 32 bits.
-/

namespace GoldenGate.Coap

open Memory Grammar

/-- What a caller passes to `GG_CoapMessage_Create`. -/
structure Creation where
  code : UInt8
  type : MessageType
  options : List MessageOption
  messageId : UInt16
  token : List UInt8
  payload : Option (List UInt8)
  payloadSize : Nat
  deriving Repr, DecidableEq

namespace Creation

def create (self : Creation) : Access (Except Error Message) :=
  Coap.create self.code self.type self.options self.messageId self.token self.payload self.payloadSize

/-- The memory behind what is passed is there. -/
structure IsReadable (creation : Creation) : Prop where
  options : ∀ o ∈ creation.options, Readable o.value
  payload : ReadablePayload creation.payload creation.payloadSize

/-- The datagram is that of a message with all that was passed: every option with its whole value,
    in the order of the numbers, and the whole payload. -/
structure CarriedBy (creation : Creation) (datagram : List UInt8) (wire : WireMessage) : Prop where
  bytes : MessageBytes wire datagram
  code : wire.code = creation.code
  type : wire.type = creation.type.bits
  messageId : wire.messageId = creation.messageId.toNat
  token : wire.token = creation.token
  options : ∃ sorted, StablySorted creation.options sorted ∧
    numbered 0 wire.options = sorted.map fun o => (o.number.toNat, wireValue o.value)
  payload : wire.payload = createdPayload creation.payload creation.payloadSize

/-- All is in the datagram when a message is created, and else there is an error. -/
def KeepsAll (self : Creation) : Prop :=
  match self.create with
  | .ok (.ok message) => ∃ wire, self.CarriedBy message.toDatagram wire
  | .ok (.error _) => True
  | .error _ => False

/-- The format holds the distance of every option to the one before it, and every value. -/
def Fits (self : Creation) : Prop := ∀ o ∈ wireOptions 0 (sortOptions self.options), Fitting o

end Creation

/-! ## The options of a datagram fit -/

theorem FieldBytes.le_maxField (field : FieldBytes nibble bytes n) : n ≤ maxField := by
  unfold maxField
  cases field with
  | short small => omega
  | byte b =>
      have small := b.toNat_lt
      omega
  | word hi lo =>
      have high := hi.toNat_lt
      have low := lo.toNat_lt
      omega

theorem OptionBytes.fitting (field : OptionBytes option bytes) : Fitting option := by
  cases field with
  | mk delta length => exact ⟨FieldBytes.le_maxField delta, FieldBytes.le_maxField length⟩

theorem OptionsBytes.fitting (field : OptionsBytes options bytes) : ∀ o ∈ options, Fitting o := by
  induction field with
  | nil => exact fun o member => (nomatch member)
  | cons first _ ih =>
      intro o member
      cases List.mem_cons.mp member with
      | inl equal => exact equal ▸ OptionBytes.fitting first
      | inr later => exact ih o later

/-- The options of a message on the wire fit. -/
theorem MessageBytes.fitting (bytes : MessageBytes wire datagram) : ∀ o ∈ wire.options, Fitting o := by
  cases bytes with
  | mk _ _ _ field _ => exact OptionsBytes.fitting field

/-- Numbers and values tell the options apart. -/
theorem numbered_inj {a b : List WireOption} {n : Nat} (same : numbered n a = numbered n b) : a = b := by
  induction a generalizing b n with
  | nil =>
      cases b with
      | nil => rfl
      | cons y b => exact nomatch same
  | cons x a ih =>
      cases b with
      | nil => exact nomatch same
      | cons y b =>
          simp only [numbered, List.cons.injEq, Prod.mk.injEq] at same
          obtain ⟨⟨number, value⟩, rest⟩ := same
          have delta : x.delta = y.delta := Nat.add_left_cancel number
          rw [delta] at rest
          have equal : x = y := by
            cases x
            cases y
            simp_all
          rw [equal, ih rest]

/-! ## When nothing is dropped -/

namespace Creation

variable {self : Creation}

/-- What is on the wire fits. -/
theorem CarriedBy.fits (carried : self.CarriedBy datagram wire) : self.Fits := by
  obtain ⟨sorted, sorting, numbers⟩ := carried.options
  obtain rfl := sorting.unique (sortOptions_sorted self.options)
  have same : numbered 0 wire.options = numbered 0 (wireOptions 0 (sortOptions self.options)) :=
    numbers.trans (numbered_wireOptions sorting.ascending
      (fun o _ => show 0 ≤ o.number from UInt32.zero_le)).symm
  have options := numbered_inj same
  intro o member
  exact MessageBytes.fitting carried.bytes o (options ▸ member)

/-- What fits is not cut. -/
theorem Fits.cutOptions (fits : self.Fits) :
    cutOptions 0 (sortOptions self.options) = wireOptions 0 (sortOptions self.options) := by
  refine cutOptions_eq (fun o member => ?_) 0
  obtain ⟨p, inside, same⟩ := mem_wireOptions_of_mem member
  have short := (fits p inside).value
  rw [same] at short
  exact short.trans_lt (by decide)

/-- Nothing is dropped exactly when the token is too long, which is an error, or the format holds
    the distance of every option to the one before it, and every value. -/
theorem keepsAll_iff (readable : self.IsReadable) :
    self.KeepsAll ↔ maxTokenLength < self.token.length ∨ self.Fits := by
  by_cases long : maxTokenLength < self.token.length
  · have refused : self.create = .ok (.error .invalidParameters) := by
      simp only [create, Coap.create, long, if_true]
      rfl
    simp only [KeepsAll, refused, long, true_or]
  · obtain ⟨bytes, message, field, created, data⟩ := create_writes self.code self.type self.messageId
      self.token (Nat.le_of_not_lt long) readable.options readable.payload
    have isCreated : self.create = .ok (.ok message) := created
    simp only [KeepsAll, isCreated, long, false_or]
    constructor
    · rintro ⟨wire, carried⟩
      exact carried.fits
    · intro fits
      rw [fits.cutOptions] at field
      have wireBytes := message_bytes self.code self.type self.messageId (Nat.le_of_not_lt long)
        (field fits) (createdPayload self.payload self.payloadSize)
      rw [← data] at wireBytes
      have sorting := sortOptions_sorted self.options
      exact ⟨_, wireBytes, rfl, rfl, rfl, rfl, ⟨_, sorting, numbered_wireOptions sorting.ascending
        (fun o _ => show 0 ≤ o.number from UInt32.zero_le)⟩, rfl⟩

/-- A request with a path and an option whose number is 70000. -/
def farOption : Creation :=
  { code := 1
    type := .con
    options := [⟨optionUriPath, .string (some [0x61]) 1⟩, ⟨70000, .empty⟩]
    messageId := 0
    token := []
    payload := none
    payloadSize := 0 }

/-- The option 70000 is not in the message, and there is no error. -/
theorem farOption_dropped :
    farOption.create = .ok (.ok ⟨[0x40, 1, 0, 0, 0xB1, 0x61], 6, 0⟩) ∧ ¬ farOption.KeepsAll := by
  have created : farOption.create = .ok (.ok ⟨[0x40, 1, 0, 0, 0xB1, 0x61], 6, 0⟩) := by decide
  refine ⟨created, fun keeps => ?_⟩
  simp only [KeepsAll, created] at keeps
  obtain ⟨wire, carried⟩ := keeps
  have far := (carried.fits ⟨69989, []⟩ (by decide)).delta
  exact absurd far (by decide)

/-- The request without that option. -/
def nearOption : Creation :=
  { farOption with options := [⟨optionUriPath, .string (some [0x61]) 1⟩] }

theorem nearOption_readable : nearOption.IsReadable where
  options := by simp [nearOption, Readable]
  payload := nofun

/-- All of it is there. -/
theorem keepsAll_nearOption : nearOption.KeepsAll := by
  refine (keepsAll_iff nearOption_readable).mpr (.inr fun o member => ?_)
  obtain rfl : o = ⟨11, [0x61]⟩ := List.mem_singleton.mp member
  exact ⟨by decide, by decide⟩

end Creation

end GoldenGate.Coap
