import GoldenGate.Common.Result
import GoldenGate.Lib.Memory
import Mathlib.Data.List.Forall2

/-! # IP addresses and their texts

The embedding of the functions of `gg_sockets.c` that print an address and parse one. A text ends where its region
has a zero.
-/

namespace GoldenGate.Sockets

open Memory

/-- `GG_IpAddress`. -/
structure IpAddress where
  ipv4 : Vector UInt8 4
  deriving DecidableEq

theorem fragmentCount_lt {fragmentCount : Nat} (isPastEnd : ¬ fragmentCount ≥ 4) : fragmentCount < 4 :=
  Nat.lt_of_not_ge isPastEnd

/-- The loop of `GG_IpAddress_SetFromString`, at the rest of the string. The checks keep the count and the value of
    the fragment small; its length is what an `unsigned int` holds. -/
def parseFragments (address : IpAddress) (fragmentCount : Nat) (fragmentLength : UInt32) (fragmentValue : Nat) :
    List UInt8 → Access (Except Error Unit × IpAddress)
  | [] => .error .outOfBounds
  | c :: string =>
      if c = 46 ∨ c = 0 then
        if isPastEnd : fragmentCount ≥ 4 then .ok (.error .invalidSyntax, address)
        else if fragmentLength = 0 then .ok (.error .invalidSyntax, address)
        else
          let address := { address with
            ipv4 := address.ipv4.set fragmentCount (UInt8.ofNat fragmentValue) (fragmentCount_lt isPastEnd) }
          if c ≠ 0 then parseFragments address (fragmentCount + 1) 0 0 string
          else if fragmentCount + 1 ≠ 4 then .ok (.error .invalidSyntax, address)
          else .ok (.ok (), address)
      else if 48 ≤ c ∧ c ≤ 57 then
        let fragmentValue := 10 * fragmentValue + (c.toNat - 48)
        if fragmentValue > 255 then .ok (.error .invalidSyntax, address)
        else parseFragments address fragmentCount (fragmentLength + 1) fragmentValue string
      else .ok (.error .invalidSyntax, address)

/-- `GG_IpAddress_SetFromString`: the result, and what is in the address then. -/
def setFromString (address : IpAddress) (string : List UInt8) : Access (Except Error Unit × IpAddress) :=
  parseFragments address 0 0 0 string

/-- What `%d` prints of a byte. -/
def decimalText (byte : UInt8) : List UInt8 := (Nat.toDigits 10 byte.toNat).map fun digit => UInt8.ofNat digit.toNat

def addressText (address : IpAddress) : List UInt8 := [46].intercalate (address.ipv4.toList.map decimalText)

/-- `GG_IpAddress_AsString`: the buffer after the `snprintf`. -/
def asString (address : IpAddress) (buffer : List UInt8) (bufferSize : Nat) : Access (List UInt8) :=
  if bufferSize = 0 then .ok buffer
  else store buffer 0 ((addressText address).take (bufferSize - 1) ++ [0])

/-! ## Texts of addresses -/

abbrev IsDigit (c : UInt8) : Prop := 48 ≤ c ∧ c ≤ 57

/-- The number that digits are, behind digits that are a number already. -/
def decimalFrom (value : Nat) (digits : List UInt8) : Nat := digits.foldl (fun n c => 10 * n + (c.toNat - 48)) value

def decimal (digits : List UInt8) : Nat := decimalFrom 0 digits

/-- A decimal number of at least one digit that is a byte. -/
structure Fragment (text : List UInt8) (value : UInt8) : Prop where
  some : text ≠ []
  digits : ∀ c ∈ text, IsDigit c
  value : decimal text = value.toNat

/-- Four fragments with a dot between each two of them. -/
def Dotted (text : List UInt8) (address : IpAddress) : Prop :=
  ∃ fragments, text = [46].intercalate fragments ∧ List.Forall₂ Fragment fragments address.ipv4.toList

/-- What the parser takes as a fragment. -/
structure Accepted (text : List UInt8) : Prop where
  digits : ∀ c ∈ text, IsDigit c
  small : decimal text ≤ 255
  counted : text.length % 2 ^ 32 ≠ 0

theorem le_decimalFrom (value : Nat) (digits : List UInt8) : value ≤ decimalFrom value digits := by
  induction digits generalizing value with
  | nil => exact Nat.le_refl value
  | cons c digits ih =>
      have next := ih (10 * value + (c.toNat - 48))
      simp only [decimalFrom, List.foldl_cons] at next ⊢
      omega

theorem IsDigit.ne {c : UInt8} (digit : IsDigit c) : c ≠ 46 ∧ c ≠ 0 := by
  constructor
  · rintro rfl
    exact absurd digit (by decide)
  · rintro rfl
    exact absurd digit (by decide)

theorem parseFragments_digit (address : IpAddress) (fragmentCount : Nat) (fragmentLength : UInt32)
    (fragmentValue : Nat) {c : UInt8} (string : List UInt8) (digit : IsDigit c) :
    parseFragments address fragmentCount fragmentLength fragmentValue (c :: string) =
      if 10 * fragmentValue + (c.toNat - 48) ≤ 255 then
        parseFragments address fragmentCount (fragmentLength + 1) (10 * fragmentValue + (c.toNat - 48)) string
      else .ok (.error .invalidSyntax, address) := by
  rw [parseFragments, if_neg (by simp [digit.ne]), if_pos digit]
  by_cases large : 10 * fragmentValue + (c.toNat - 48) > 255
  · simp [large]
  · simp [large, Nat.le_of_not_gt large]

/-- The digits of a fragment are added up, and the first that makes it too large ends the parsing. -/
theorem parseFragments_digits (address : IpAddress) (fragmentCount : Nat) (fragmentLength : UInt32)
    (fragmentValue : Nat) (digits rest : List UInt8) (areDigits : ∀ c ∈ digits, IsDigit c)
    (small : fragmentValue ≤ 255) :
    parseFragments address fragmentCount fragmentLength fragmentValue (digits ++ rest) =
      if decimalFrom fragmentValue digits ≤ 255 then
        parseFragments address fragmentCount (fragmentLength + UInt32.ofNat digits.length)
          (decimalFrom fragmentValue digits) rest
      else .ok (.error .invalidSyntax, address) := by
  induction digits generalizing fragmentLength fragmentValue with
  | nil => simp [decimalFrom, small]
  | cons c digits ih =>
      have digit := areDigits c List.mem_cons_self
      have value : decimalFrom fragmentValue (c :: digits) =
          decimalFrom (10 * fragmentValue + (c.toNat - 48)) digits := rfl
      rw [List.cons_append, parseFragments_digit address fragmentCount fragmentLength fragmentValue _ digit, value]
      by_cases next : 10 * fragmentValue + (c.toNat - 48) ≤ 255
      · have length : fragmentLength + 1 + UInt32.ofNat digits.length =
            fragmentLength + UInt32.ofNat (c :: digits).length := by
          rw [List.length_cons, Nat.add_comm, UInt32.ofNat_add, UInt32.add_assoc]
          rfl
        have rest := ih (fragmentLength + 1) (10 * fragmentValue + (c.toNat - 48))
          (fun d inside => areDigits d (List.mem_cons_of_mem c inside)) next
        rw [if_pos next, rest, length]
      · have larger := le_decimalFrom (10 * fragmentValue + (c.toNat - 48)) digits
        rw [if_neg next, if_neg (by omega)]

/-- A character that is neither a digit nor a dot ends the parsing. -/
theorem parseFragments_other (address : IpAddress) (fragmentCount : Nat) (fragmentLength : UInt32)
    (fragmentValue : Nat) (text rest : List UInt8) (noEnd : 46 ∉ text ∧ 0 ∉ text) {c : UInt8} (inside : c ∈ text)
    (other : ¬ IsDigit c) :
    parseFragments address fragmentCount fragmentLength fragmentValue (text ++ rest) =
      .ok (.error .invalidSyntax, address) := by
  induction text generalizing fragmentLength fragmentValue with
  | nil => exact absurd inside List.not_mem_nil
  | cons first text ih =>
      rw [List.cons_append]
      by_cases digit : IsDigit first
      · have next := ih (fragmentLength + 1) (10 * fragmentValue + (first.toNat - 48)) (by grind) (by grind)
        rw [parseFragments_digit address fragmentCount fragmentLength fragmentValue _ digit, next, ite_self]
      · have plain : ¬ (first = 46 ∨ first = 0) := by grind
        rw [parseFragments, if_neg plain, if_neg digit]

/-- A fragment is taken. -/
theorem parseFragments_fragment (address : IpAddress) (fragmentCount : Nat) (text rest : List UInt8)
    (digits : ∀ c ∈ text, IsDigit c) (small : decimal text ≤ 255) :
    parseFragments address fragmentCount 0 0 (text ++ rest) =
      parseFragments address fragmentCount (UInt32.ofNat text.length) (decimal text) rest := by
  rw [parseFragments_digits address fragmentCount 0 0 text rest digits (Nat.zero_le 255), UInt32.zero_add]
  exact if_pos small

/-- The parsing ends with what is not a fragment. -/
theorem parseFragments_noFragment (address : IpAddress) (fragmentCount : Nat) (text rest : List UInt8)
    (noEnd : 46 ∉ text ∧ 0 ∉ text) (noFragment : ¬ ((∀ c ∈ text, IsDigit c) ∧ decimal text ≤ 255)) :
    parseFragments address fragmentCount 0 0 (text ++ rest) = .ok (.error .invalidSyntax, address) := by
  by_cases digits : ∀ c ∈ text, IsDigit c
  · rw [parseFragments_digits address fragmentCount 0 0 text rest digits (Nat.zero_le 255)]
    exact if_neg fun small => noFragment ⟨digits, small⟩
  · have other := digits
    push Not at other
    obtain ⟨c, inside, other⟩ := other
    exact parseFragments_other address fragmentCount 0 0 text rest noEnd inside (by grind)

/-- The end of a fragment that was taken: it is stored, and the string goes on or ends. -/
theorem parseFragments_end (address : IpAddress) (fragmentCount : Nat) {fragmentLength : UInt32} (fragmentValue : Nat)
    {c : UInt8} (rest : List UInt8) (ends : c = 46 ∨ c = 0) :
    parseFragments address fragmentCount fragmentLength fragmentValue (c :: rest) =
      if inside : fragmentCount < 4 ∧ fragmentLength ≠ 0 then
        (let address : IpAddress := ⟨address.ipv4.set fragmentCount (UInt8.ofNat fragmentValue) inside.1⟩
         if c = 46 then parseFragments address (fragmentCount + 1) 0 0 rest
         else .ok (if fragmentCount + 1 = 4 then .ok () else .error .invalidSyntax, address))
      else .ok (.error .invalidSyntax, address) := by
  rw [parseFragments, if_pos ends]
  by_cases past : fragmentCount ≥ 4
  · rw [dif_pos past, dif_neg (by omega)]
  · by_cases empty : fragmentLength = 0
    · rw [dif_neg past, if_pos empty, dif_neg (by simp [empty])]
    · rw [dif_neg past, if_neg empty, dif_pos ⟨Nat.lt_of_not_ge past, empty⟩]
      rcases ends with rfl | rfl
      · simp
      · by_cases last : fragmentCount + 1 = 4
        · simp [last]
        · simp [last]

theorem ofNat_length_eq_zero (text : List UInt8) : UInt32.ofNat text.length = 0 ↔ text.length % 2 ^ 32 = 0 := by
  rw [← UInt32.toNat_inj, UInt32.toNat_ofNat']
  rfl

/-- A fragment that is accepted is stored, and the string goes on or ends. -/
theorem parseFragments_accepted (address : IpAddress) {fragmentCount : Nat} {text : List UInt8} {c : UInt8}
    (rest : List UInt8) (ends : c = 46 ∨ c = 0) (inside : fragmentCount < 4) (accepted : Accepted text) :
    parseFragments address fragmentCount 0 0 (text ++ c :: rest) =
      (let address : IpAddress := ⟨address.ipv4.set fragmentCount (UInt8.ofNat (decimal text)) inside⟩
       if c = 46 then parseFragments address (fragmentCount + 1) 0 0 rest
       else .ok (if fragmentCount + 1 = 4 then .ok () else .error .invalidSyntax, address)) := by
  have counted : UInt32.ofNat text.length ≠ 0 := fun none => accepted.counted ((ofNat_length_eq_zero text).mp none)
  rw [parseFragments_fragment address fragmentCount text _ accepted.digits accepted.small,
    parseFragments_end address fragmentCount (decimal text) rest ends, dif_pos ⟨inside, counted⟩]

theorem parseFragments_refused (address : IpAddress) {fragmentCount : Nat} {text : List UInt8} {c : UInt8}
    (rest : List UInt8) (noEnd : 46 ∉ text ∧ 0 ∉ text) (ends : c = 46 ∨ c = 0)
    (refused : ¬ (fragmentCount < 4 ∧ Accepted text)) :
    parseFragments address fragmentCount 0 0 (text ++ c :: rest) = .ok (.error .invalidSyntax, address) := by
  by_cases taken : (∀ c ∈ text, IsDigit c) ∧ decimal text ≤ 255
  · rw [parseFragments_fragment address fragmentCount text _ taken.1 taken.2, parseFragments_end address fragmentCount (decimal text) rest ends, dif_neg]
    rintro ⟨inside, counted⟩
    exact refused ⟨inside, taken.1, taken.2, fun none => counted ((ofNat_length_eq_zero text).mpr none)⟩
  · exact parseFragments_noFragment address fragmentCount text _ noEnd taken

theorem toList_set_take (address : IpAddress) {fragmentCount : Nat} (value : UInt8) (inside : fragmentCount < 4) :
    (address.ipv4.set fragmentCount value inside).toList.take (fragmentCount + 1) =
      address.ipv4.toList.take fragmentCount ++ [value] := by
  have length : address.ipv4.toList.length = 4 := Vector.length_toList
  rw [Vector.toList_set, List.take_add_one, List.take_set_of_le (Nat.le_refl fragmentCount),
    List.getElem?_set_self (by omega)]
  rfl

/-- The number of the fragments and each of them decide, and each is stored behind the ones before it. -/
theorem parseFragments_intercalate (address : IpAddress) (fragmentCount : Nat) (fragments : List (List UInt8))
    (rest : List UInt8) (some : fragments ≠ []) (noEnd : ∀ text ∈ fragments, 46 ∉ text ∧ 0 ∉ text) :
    ∃ result stored,
      parseFragments address fragmentCount 0 0 ([46].intercalate fragments ++ 0 :: rest) = .ok (result, stored) ∧
      (result = .ok () ↔ fragmentCount + fragments.length = 4 ∧ ∀ text ∈ fragments, Accepted text) ∧
      (result = .ok () → stored.ipv4.toList =
        address.ipv4.toList.take fragmentCount ++ fragments.map fun text => UInt8.ofNat (decimal text)) := by
  induction fragments generalizing address fragmentCount with
  | nil => exact absurd rfl some
  | cons text fragments ih =>
      have plain := noEnd text List.mem_cons_self
      cases fragments with
      | nil =>
          rw [List.intercalate_singleton]
          by_cases taken : fragmentCount < 4 ∧ Accepted text
          · obtain ⟨inside, accepted⟩ := taken
            refine ⟨_, _, parseFragments_accepted address rest (.inr rfl) inside accepted, ?_, ?_⟩
            · by_cases last : fragmentCount + 1 = 4
              · simp [last, accepted]
              · simp [last]
            · intro done
              have last : fragmentCount + 1 = 4 := by grind
              have stored := toList_set_take address (UInt8.ofNat (decimal text)) inside
              rw [List.take_of_length_le (by simp [last])] at stored
              exact stored
          · exact ⟨_, _, parseFragments_refused address rest plain (.inr rfl) taken, by grind, nofun⟩
      | cons next fragments =>
          rw [List.intercalate_cons_cons, List.append_assoc, List.append_assoc, List.singleton_append]
          by_cases taken : fragmentCount < 4 ∧ Accepted text
          · obtain ⟨inside, accepted⟩ := taken
            rw [parseFragments_accepted address _ (.inl rfl) inside accepted]
            obtain ⟨result, stored, parses, succeeds, stores⟩ :=
              ih ⟨address.ipv4.set fragmentCount (UInt8.ofNat (decimal text)) inside⟩ (fragmentCount + 1)
                (List.cons_ne_nil next fragments) (fun other inside => noEnd other (List.mem_cons_of_mem text inside))
            refine ⟨result, stored, parses, ?_, ?_⟩
            · grind
            · intro done
              rw [stores done, toList_set_take, List.append_assoc]
              rfl
          · exact ⟨_, _, parseFragments_refused address _ plain (.inl rfl) taken, by grind, nofun⟩

theorem exists_fragments (text : List UInt8) (noNul : 0 ∉ text) :
    ∃ fragments, fragments ≠ [] ∧ text = [46].intercalate fragments ∧ ∀ part ∈ fragments, 46 ∉ part ∧ 0 ∉ part := by
  induction text with
  | nil => exact ⟨[[]], by simp, by simp, by simp⟩
  | cons c text ih =>
      obtain ⟨fragments, some, rfl, noEnd⟩ := ih (fun inside => noNul (List.mem_cons_of_mem c inside))
      cases fragments with
      | nil => exact absurd rfl some
      | cons part fragments =>
          by_cases dot : c = 46
          · exact ⟨[] :: part :: fragments, by simp, by simp [dot, List.intercalate_cons_cons], by grind⟩
          · refine ⟨(c :: part) :: fragments, by simp, ?_, by grind⟩
            cases fragments with
            | nil => simp
            | cons next fragments => simp [List.intercalate_cons_cons]

theorem Fragment.noEnd {text : List UInt8} {value : UInt8} (fragment : Fragment text value) :
    46 ∉ text ∧ 0 ∉ text :=
  ⟨fun dot => (fragment.digits 46 dot).ne.1 rfl, fun nul => (fragment.digits 0 nul).ne.2 rfl⟩

theorem Fragment.accepted {text : List UInt8} {value : UInt8} (fragment : Fragment text value)
    (counted : text.length % 2 ^ 32 ≠ 0) : Accepted text where
  digits := fragment.digits
  small := by
    have byte := value.toNat_lt
    have same := fragment.value
    omega
  counted := counted

theorem Accepted.fragment {text : List UInt8} (accepted : Accepted text) :
    Fragment text (UInt8.ofNat (decimal text)) where
  some := by
    rintro rfl
    exact accepted.counted rfl
  digits := accepted.digits
  value := by
    have small := accepted.small
    rw [UInt8.toNat_ofNat']
    omega

theorem exists_value {fragments : List (List UInt8)} {values : List UInt8}
    (areFragments : List.Forall₂ Fragment fragments values) {part : List UInt8} (inside : part ∈ fragments) :
    ∃ value, Fragment part value := by
  induction areFragments with
  | nil => exact absurd inside List.not_mem_nil
  | cons fragment _ ih =>
      rcases List.mem_cons.mp inside with rfl | later
      · exact ⟨_, fragment⟩
      · exact ih later

/-- The fragments of a text are where the dots are. -/
theorem Dotted.splitOn {text : List UInt8} {address : IpAddress} (dotted : Dotted text address) :
    List.Forall₂ Fragment (text.splitOn 46) address.ipv4.toList := by
  obtain ⟨fragments, rfl, areFragments⟩ := dotted
  have some : fragments ≠ [] := by
    rintro rfl
    have none := areFragments.length_eq
    simp at none
  have noDot : ∀ part ∈ fragments, 46 ∉ part := by
    intro part inside
    obtain ⟨value, fragment⟩ := exists_value areFragments inside
    exact fragment.noEnd.1
  rwa [List.splitOn_intercalate 46 noDot some]

/-- The parser takes the dotted texts but those with a fragment whose length its counter loses. -/
theorem setFromString_text (text : List UInt8) (noNul : 0 ∉ text) (address : IpAddress) (rest : List UInt8) :
    ∃ result stored, setFromString address (text ++ 0 :: rest) = .ok (result, stored) ∧
      (result = .ok () ↔ (∃ values, Dotted text values) ∧ ∀ part ∈ text.splitOn 46, part.length % 2 ^ 32 ≠ 0) ∧
      (result = .ok () → Dotted text stored) := by
  obtain ⟨fragments, some, isText, noEnd⟩ := exists_fragments text noNul
  have split : text.splitOn 46 = fragments := by
    rw [isText]
    exact List.splitOn_intercalate 46 (fun part inside => (noEnd part inside).1) some
  obtain ⟨result, stored, parses, succeeds, stores⟩ := parseFragments_intercalate address 0 fragments rest some noEnd
  have dotted : result = .ok () → Dotted text stored := by
    intro done
    have all := (succeeds.mp done).2
    refine ⟨fragments, isText, ?_⟩
    rw [stores done, List.take_zero, List.nil_append, List.forall₂_map_right_iff, List.forall₂_same]
    exact fun part inside => (all part inside).fragment
  refine ⟨result, stored, ?_, ⟨?_, ?_⟩, dotted⟩
  · rw [isText]
    exact parses
  · intro done
    exact ⟨⟨stored, dotted done⟩, fun part inside => ((succeeds.mp done).2 part (split ▸ inside)).counted⟩
  · rintro ⟨⟨values, isDotted⟩, counted⟩
    have areFragments := isDotted.splitOn
    rw [split] at areFragments counted
    refine succeeds.mpr ⟨?_, ?_⟩
    · rw [areFragments.length_eq, Vector.length_toList]
    · intro part inside
      obtain ⟨value, fragment⟩ := exists_value areFragments inside
      exact fragment.accepted (counted part inside)

/-! ## Parsing what was printed -/

theorem toNat_ofNat_digit {digit : Char} (isDigit : digit.isDigit) :
    48 ≤ digit.toNat ∧ digit.toNat ≤ 57 ∧ (UInt8.ofNat digit.toNat).toNat = digit.toNat := by
  have bounds : 48 ≤ digit.toNat ∧ digit.toNat ≤ 57 := Char.isDigit_iff_toNat.mp isDigit
  refine ⟨bounds.1, bounds.2, ?_⟩
  rw [UInt8.toNat_ofNat']
  omega

theorem decimalFrom_digits (value : Nat) (digits : List Char) (areDigits : ∀ digit ∈ digits, digit.isDigit) :
    decimalFrom value (digits.map fun digit => UInt8.ofNat digit.toNat) = Nat.ofDigitChars 10 digits value := by
  induction digits generalizing value with
  | nil => exact Nat.ofDigitChars_nil.symm
  | cons digit digits ih =>
      have next := ih (10 * value + (digit.toNat - 48)) (fun other inside => areDigits other (.tail _ inside))
      obtain ⟨-, -, same⟩ := toNat_ofNat_digit (areDigits digit List.mem_cons_self)
      rw [Nat.ofDigitChars_cons]
      simp only [decimalFrom, List.map_cons, List.foldl_cons, same] at next ⊢
      exact next

theorem fragment_decimalText (byte : UInt8) : Fragment (decimalText byte) byte ∧ (decimalText byte).length < 4 := by
  have areDigits : ∀ digit ∈ Nat.toDigits 10 byte.toNat, digit.isDigit :=
    fun digit inside => Nat.isDigit_of_mem_toDigits (by decide) (by decide) inside
  have short : (Nat.toDigits 10 byte.toNat).length ≤ 3 :=
    (Nat.length_toDigits_le_iff (by decide) (by decide)).mpr (byte.toNat_lt.trans (by decide))
  refine ⟨⟨?_, ?_, ?_⟩, ?_⟩
  · rw [decimalText, ne_eq, List.map_eq_nil_iff]
    exact Nat.toDigits_ne_nil
  · intro c inside
    obtain ⟨digit, printed, rfl⟩ := List.mem_map.mp inside
    obtain ⟨low, high, same⟩ := toNat_ofNat_digit (areDigits digit printed)
    rw [IsDigit, UInt8.le_iff_toNat_le, UInt8.le_iff_toNat_le, same]
    exact ⟨low, high⟩
  · rw [decimalText, decimal, decimalFrom_digits 0 _ areDigits, Nat.ofDigitChars_ten_toDigits]
  · rw [decimalText, List.length_map]
    omega

theorem dotted_addressText (address : IpAddress) : Dotted (addressText address) address := by
  refine ⟨address.ipv4.toList.map decimalText, rfl, ?_⟩
  rw [List.forall₂_map_left_iff, List.forall₂_same]
  exact fun byte _ => (fragment_decimalText byte).1

theorem zero_notMem_intercalate {fragments : List (List UInt8)} (noNul : ∀ part ∈ fragments, 0 ∉ part) :
    0 ∉ [46].intercalate fragments := by
  induction fragments with
  | nil => exact List.not_mem_nil
  | cons part fragments ih =>
      have later := ih (fun other inside => noNul other (List.mem_cons_of_mem part inside))
      cases fragments with
      | nil =>
          rw [List.intercalate_singleton]
          exact noNul part List.mem_cons_self
      | cons next fragments =>
          rw [List.intercalate_cons_cons]
          grind

theorem Dotted.unique {text : List UInt8} {a b : IpAddress} (isA : Dotted text a) (isB : Dotted text b) : a = b := by
  have one : Relator.RightUnique Fragment := by
    intro part x y isX isY
    exact UInt8.toNat_inj.mp (isX.value.symm.trans isY.value)
  have same := List.right_unique_forall₂' one isA.splitOn isB.splitOn
  cases a
  cases b
  exact congrArg IpAddress.mk (Vector.toList_inj.mp same)

theorem setFromString_asString (address : IpAddress) (buffer : List UInt8) (bufferSize : Nat)
    (inside : bufferSize ≤ buffer.length) (room : (addressText address).length < bufferSize) :
    ∃ printed, asString address buffer bufferSize = .ok printed ∧
      ∀ other, setFromString other printed = .ok (.ok (), address) := by
  have noEnd : ∀ part ∈ address.ipv4.toList.map decimalText, 46 ∉ part ∧ 0 ∉ part := by
    intro part isPart
    obtain ⟨byte, -, rfl⟩ := List.mem_map.mp isPart
    exact (fragment_decimalText byte).1.noEnd
  have split : (addressText address).splitOn 46 = address.ipv4.toList.map decimalText := by
    refine List.splitOn_intercalate 46 (fun part isPart => (noEnd part isPart).1) ?_
    intro none
    have length := congrArg List.length none
    simp at length
  have counted : ∀ part ∈ (addressText address).splitOn 46, part.length % 2 ^ 32 ≠ 0 := by
    intro part isPart
    rw [split] at isPart
    obtain ⟨byte, -, rfl⟩ := List.mem_map.mp isPart
    have short := (fragment_decimalText byte).2
    have some := List.length_pos_iff.mpr (fragment_decimalText byte).1.some
    omega
  refine ⟨addressText address ++ 0 :: buffer.drop ((addressText address).length + 1), ?_, ?_⟩
  · rw [asString, if_neg (by omega), List.take_of_length_le (by omega), store, if_pos (by simp; omega)]
    simp
  · intro other
    have noNul := zero_notMem_intercalate (fun part isPart => (noEnd part isPart).2)
    obtain ⟨result, stored, parses, succeeds, isDotted⟩ := setFromString_text (addressText address) noNul other
      (buffer.drop ((addressText address).length + 1))
    have done := succeeds.mpr ⟨⟨address, dotted_addressText address⟩, counted⟩
    rw [parses, done, (isDotted done).unique (dotted_addressText address)]

/-- The text is parsed as what it is: the parser succeeds with dotted texts only, all of them, and stores their
    values. -/
def ParsedAsDotted (text : List UInt8) : Prop :=
  ∀ address rest, ∃ result stored, setFromString address (text ++ 0 :: rest) = .ok (result, stored) ∧
    (result = .ok () → Dotted text stored) ∧ ((∃ values, Dotted text values) → result = .ok ())

/-- The texts that are not parsed as what they are have a fragment of digits as long as makes the counter of its length
    zero again. What is printed is parsed. -/
theorem parsedAsDotted_iff (text : List UInt8) (address : IpAddress) :
    (0 ∉ text → (ParsedAsDotted text ↔
      ((∃ values, Dotted text values) → ∀ part ∈ text.splitOn 46, part.length % 2 ^ 32 ≠ 0))) ∧
    ∀ buffer bufferSize, bufferSize ≤ buffer.length → (addressText address).length < bufferSize →
      ∃ printed, asString address buffer bufferSize = .ok printed ∧
        ∀ other, setFromString other printed = .ok (.ok (), address) := by
  refine ⟨fun noNul => ⟨?_, ?_⟩, setFromString_asString address⟩
  · intro parsed dotted
    obtain ⟨result, stored, parses, -, succeeds⟩ := parsed ⟨#v[0, 0, 0, 0]⟩ []
    obtain ⟨result', stored', parses', succeeds', -⟩ := setFromString_text text noNul ⟨#v[0, 0, 0, 0]⟩ []
    rw [parses] at parses'
    cases parses'
    exact (succeeds'.mp (succeeds dotted)).2
  · intro counted address rest
    obtain ⟨result, stored, parses, succeeds, stores⟩ := setFromString_text text noNul address rest
    exact ⟨result, stored, parses, stores, fun dotted => succeeds.mpr ⟨dotted, counted dotted⟩⟩

theorem decimal_replicate_zero (n : Nat) : decimal (List.replicate n 48) = 0 := by
  induction n with
  | zero => rfl
  | succ n ih => exact ih

/-- Four zeros, of which the first is written with any number of digits. -/
def zeros (n : Nat) : List (List UInt8) := [List.replicate n 48, [48], [48], [48]]

theorem fragment_zeros {n : Nat} (some : n ≠ 0) {part : List UInt8} (inside : part ∈ zeros n) : Fragment part 0 := by
  have long : Fragment (List.replicate n 48) 0 := by
    refine ⟨?_, ?_, decimal_replicate_zero n⟩
    · simpa using some
    · intro c isDigit
      rw [List.eq_of_mem_replicate isDigit]
      decide
  have zero : Fragment [48] 0 := fragment_decimalText 0 |>.1
  simp only [zeros, List.mem_cons, List.not_mem_nil, or_false] at inside
  rcases inside with rfl | rfl | rfl | rfl
  · exact long
  · exact zero
  · exact zero
  · exact zero

theorem not_parsedAsDotted {n : Nat} (some : n ≠ 0) (wraps : n % 2 ^ 32 = 0) :
    ¬ ParsedAsDotted ([46].intercalate (zeros n)) := by
  have noEnd : ∀ part ∈ zeros n, 46 ∉ part ∧ 0 ∉ part := fun part inside => (fragment_zeros some inside).noEnd
  have noNul := zero_notMem_intercalate (fun part inside => (noEnd part inside).2)
  have split := List.splitOn_intercalate 46 (fun part inside => (noEnd part inside).1) (List.cons_ne_nil _ _)
  have dotted : Dotted ([46].intercalate (zeros n)) ⟨#v[0, 0, 0, 0]⟩ := by
    have fragment := fun part inside => @fragment_zeros n some part inside
    exact ⟨zeros n, rfl, .cons (fragment _ (by simp [zeros])) (.cons (fragment _ (by simp [zeros]))
      (.cons (fragment _ (by simp [zeros])) (.cons (fragment _ (by simp [zeros])) .nil)))⟩
  intro parsed
  obtain ⟨result, stored, parses, -, succeeds⟩ := parsed ⟨#v[0, 0, 0, 0]⟩ []
  obtain ⟨result', stored', parses', succeeds', -⟩ := setFromString_text _ noNul ⟨#v[0, 0, 0, 0]⟩ []
  rw [parses] at parses'
  cases parses'
  have counted := (succeeds'.mp (succeeds ⟨_, dotted⟩)).2
  rw [split] at counted
  exact counted (List.replicate n 48) List.mem_cons_self (by rw [List.length_replicate, wraps])

/-- The first fragment has as many digits as the counter of its length has values. -/
theorem not_parsedAsDotted_zeros : ¬ ParsedAsDotted ([46].intercalate (zeros (2 ^ 32))) :=
  not_parsedAsDotted (by decide) (by decide)

end GoldenGate.Sockets
