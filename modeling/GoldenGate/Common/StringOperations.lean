import GoldenGate.Common.Strings
import Mathlib.Data.List.DropRight

/-! # Strings as lists of characters

A string holds a list of characters when its buffer has them before a zero. The operations on strings are those on the
lists that they hold.
-/

namespace GoldenGate.Strings

open Memory

/-- The characters are at the start of the buffer, before a zero. -/
structure HoldsText (buffer : StringBuffer) (text : List UInt8) : Prop where
  length : buffer.length = text.length
  noNul : 0 ∉ text
  chars : ∃ rest, buffer.chars = text ++ 0 :: rest
  sized : buffer.chars.length = buffer.allocated + 1

/-- The characters of a string; without a buffer there are none. -/
def Holds : GgString → List UInt8 → Prop
  | none, text => text = []
  | some buffer, text => HoldsText buffer text

/-- A string of the C library. -/
structure IsText (region text : List UInt8) : Prop where
  noNul : 0 ∉ text
  chars : ∃ rest, region = text ++ 0 :: rest

theorem HoldsText.isText {buffer : StringBuffer} {text : List UInt8} (holds : HoldsText buffer text) :
    IsText buffer.chars text :=
  ⟨holds.noNul, holds.chars⟩

theorem Holds.isText {self_ : GgString} {text : List UInt8} (holds : Holds self_ text) : IsText (getChars self_) text := by
  cases self_ with
  | none =>
      cases holds
      exact ⟨List.not_mem_nil, [], rfl⟩
  | some buffer => exact HoldsText.isText holds

theorem Holds.length {self_ : GgString} {text : List UInt8} (holds : Holds self_ text) :
    getLength self_ = text.length := by
  cases self_ with
  | none =>
      cases holds
      rfl
  | some buffer => exact HoldsText.length holds

theorem IsText.drop {region text : List UInt8} (isText : IsText region text) {n : Nat} (inside : n ≤ text.length) :
    IsText (region.drop n) (text.drop n) := by
  obtain ⟨noNul, rest, rfl⟩ := isText
  exact ⟨fun nul => noNul (List.mem_of_mem_drop nul), rest, List.drop_append_of_le_length inside⟩

theorem strlen_text {region text : List UInt8} (isText : IsText region text) : strlen region = .ok text.length := by
  obtain ⟨noNul, rest, rfl⟩ := isText
  induction text with
  | nil => rfl
  | cons c text ih =>
      have other : c ≠ 0 := fun nul => noNul (nul ▸ List.mem_cons_self)
      rw [List.cons_append, strlen, if_neg other, ih (fun nul => noNul (List.mem_cons_of_mem c nul))]
      rfl

theorem load_first {region text : List UInt8} (isText : IsText region text) :
    ∃ c, load region 0 = .ok c ∧ (c = 0 ↔ text = []) := by
  obtain ⟨noNul, rest, rfl⟩ := isText
  cases text with
  | nil => exact ⟨0, rfl, by simp⟩
  | cons c text =>
      have other : c ≠ 0 := fun nul => noNul (nul ▸ List.mem_cons_self)
      exact ⟨c, rfl, by simp [other]⟩

/-! ## Integers -/

theorem asInt_of_small {x : Int} (low : -2 ^ 31 ≤ x) (high : x < 2 ^ 31) : asInt x = x := by
  unfold asInt
  rw [Int.bmod_eq_of_le]
  · omega
  · omega

theorem asInt_asSize (x : Int) : asInt (asSize x) = asInt x := by
  have positive : 0 ≤ x % 2 ^ 64 := Int.emod_nonneg x (by decide)
  have same : x % 2 ^ 64 % ((2 ^ 32 : Nat) : Int) = x % ((2 ^ 32 : Nat) : Int) := Int.emod_emod_of_dvd x (by decide)
  unfold asInt asSize
  rw [Int.toNat_of_nonneg positive, Int.bmod_def, Int.bmod_def, same]

theorem asInt_wraps {x : Int} (low : -2 ^ 32 ≤ x) (high : x < -2 ^ 31) : asInt x = x + 2 ^ 32 := by
  have turn : asInt (x + 2 ^ 32) = asInt x := by
    unfold asInt
    exact Int.add_bmod_right x (2 ^ 32)
  rw [← turn, asInt_of_small (by omega) (by omega)]

/-! ## Writing -/

section Writing

variable (memory : Allocator)

theorem allocate_small {allocated : Nat} (length : Nat) (small : allocated < 2 ^ 33) :
    allocate memory allocated length = some ⟨length, allocated, memory.bytes (allocated + 1)⟩ := by
  have size : asSize (16 + allocated + 1) = 16 + allocated + 1 := by
    unfold asSize
    omega
  simp only [allocate, size]
  rw [if_neg (by omega)]

/-- Characters and a zero behind what is in a buffer already. -/
theorem store_text {chars : List UInt8} (before text rest : List UInt8) (isChars : chars = before ++ rest)
    (room : text.length < rest.length) :
    ∃ rest', (store chars before.length text >>= fun chars => store chars (before.length + text.length) [0]) =
        .ok (before ++ text ++ 0 :: rest') ∧ (before ++ text ++ 0 :: rest').length = chars.length := by
  subst isChars
  have first := store_behind before rest text (Nat.le_of_lt room)
  have second := store_behind (before ++ text) (rest.drop text.length) [0] (by simp; omega)
  rw [List.length_append] at second
  refine ⟨(rest.drop text.length).drop 1, ?_, ?_⟩
  · rw [first, ok_bind, second]
    simp
  · simp
    omega

theorem loadBytes_text {region text : List UInt8} (rest : List UInt8) (isRegion : region = text ++ rest) :
    loadBytes region 0 text.length = .ok text := by
  subst isRegion
  simp [loadBytes]

/-- There is a buffer with room for the length. -/
theorem prepareToWrite_room {self_ : GgString} {text : List UInt8} (holds : Holds self_ text) {length : Nat}
    (small : length < 2 ^ 31) :
    ∃ buffer, prepareToWrite memory self_ length = some buffer ∧ buffer.length = length ∧ length ≤ buffer.allocated ∧
      buffer.chars.length = buffer.allocated + 1 := by
  cases self_ with
  | none => exact ⟨_, allocate_small memory length (by omega), rfl, Nat.le_refl length, memory.length_bytes _⟩
  | some buffer =>
      simp only [prepareToWrite]
      by_cases large : buffer.allocated < length
      · rw [if_pos large]
        have grow : asSize (buffer.allocated * 2) = buffer.allocated * 2 := by
          unfold asSize
          omega
        rw [grow]
        by_cases grows : buffer.allocated * 2 > length
        · rw [if_pos grows]
          exact ⟨_, allocate_small memory length (by omega), rfl, Nat.le_of_lt grows, memory.length_bytes _⟩
        · rw [if_neg grows]
          exact ⟨_, allocate_small memory length (by omega), rfl, Nat.le_refl length, memory.length_bytes _⟩
      · rw [if_neg large]
        have sized : buffer.chars.length = buffer.allocated + 1 := HoldsText.sized holds
        exact ⟨_, rfl, rfl, Nat.le_of_not_lt large, sized⟩

theorem assignN_holds {self_ : GgString} {text region arg rest : List UInt8} (holds : Holds self_ text)
    (isRegion : region = arg ++ rest) (noNul : 0 ∉ arg) (small : arg.length < 2 ^ 31) :
    ∃ self', assignN memory self_ (some region) arg.length = .ok (.ok (), self') ∧ Holds self' arg := by
  by_cases empty : arg.length = 0
  · exact ⟨none, by simp only [assignN, if_pos empty], List.length_eq_zero_iff.mp empty⟩
  · obtain ⟨buffer, prepares, length, room, sized⟩ := prepareToWrite_room memory holds small
    obtain ⟨tail, stores, keeps⟩ := @store_text buffer.chars [] arg buffer.chars rfl (by omega)
    rw [List.length_nil, Nat.zero_add, List.nil_append] at stores
    refine ⟨some { buffer with chars := arg ++ 0 :: tail }, ?_, length, noNul, ⟨tail, rfl⟩, ?_⟩
    · simp only [assignN, if_neg empty, prepares, Strings.buffer, ok_bind, loadBytes_text rest isRegion]
      obtain ⟨chars, first, second⟩ := bind_ok stores
      rw [first, ok_bind, second, ok_bind]
    · rw [← sized, ← keeps]
      rfl

theorem assign_holds {self_ : GgString} {text region arg : List UInt8} (holds : Holds self_ text)
    (isText : IsText region arg) (small : arg.length < 2 ^ 31) :
    ∃ self', assign memory self_ (some region) = .ok (.ok (), self') ∧ Holds self' arg := by
  obtain ⟨rest, isRegion⟩ := isText.chars
  simp only [assign, strlen_text isText, ok_bind]
  exact assignN_holds memory holds isRegion isText.noNul small

/-- The characters stay, in a buffer with room for the length. -/
theorem reserve_room {self_ : GgString} {text : List UInt8} (holds : Holds self_ text) {length : Nat}
    (small : length < 2 ^ 31) :
    ∃ buffer, reserve memory self_ length = .ok (.ok (), some buffer) ∧ HoldsText buffer text ∧
      length ≤ buffer.allocated := by
  cases self_ with
  | none =>
      cases holds
      have sized := memory.length_bytes (length + 1)
      have stores := store_zero (memory.bytes (length + 1)) [0] (by simp [sized])
      refine ⟨⟨0, length, [0] ++ (memory.bytes (length + 1)).drop 1⟩, ?_, ?_, Nat.le_refl length⟩
      · simp only [reserve, allocate_small memory 0 (by omega : length < 2 ^ 33), stores, ok_bind,
          List.length_singleton]
      · refine ⟨rfl, List.not_mem_nil, ⟨_, rfl⟩, ?_⟩
        simp [sized]
  | some buffer =>
      have holdsText : HoldsText buffer text := holds
      simp only [reserve]
      by_cases large : buffer.allocated < length
      · rw [if_pos large]
        have grow : asSize (buffer.allocated * 2) = buffer.allocated * 2 := by
          unfold asSize
          omega
        rw [grow]
        obtain ⟨needed, isNeeded, enough, few⟩ : ∃ needed, (if buffer.allocated * 2 > length then buffer.allocated * 2
            else length) = needed ∧ length ≤ needed ∧ needed < 2 ^ 33 := by
          by_cases grows : buffer.allocated * 2 > length
          · exact ⟨_, if_pos grows, Nat.le_of_lt grows, by omega⟩
          · exact ⟨_, if_neg grows, Nat.le_refl length, by omega⟩
        obtain ⟨rest, isChars⟩ := holdsText.chars
        have sized := holdsText.sized
        have fits : text.length + 1 ≤ buffer.allocated + 1 := by
          rw [← sized, isChars]
          simp
        have loads : loadBytes buffer.chars 0 (buffer.length + 1) = .ok (text ++ [0]) := by
          rw [holdsText.length, isChars]
          have whole := @loadBytes_text (text ++ [0] ++ rest) (text ++ [0]) rest rfl
          simpa using whole
        have room : (text ++ [0]).length ≤ (memory.bytes (needed + 1)).length := by
          rw [memory.length_bytes]
          simp
          omega
        refine ⟨⟨buffer.length, needed, text ++ [0] ++ (memory.bytes (needed + 1)).drop (text ++ [0]).length⟩, ?_, ?_,
          enough⟩
        · rw [isNeeded, allocate_small memory buffer.length few]
          simp only [loads, ok_bind, store_zero _ _ room]
        · refine ⟨holdsText.length, holdsText.noNul, ⟨_, by rw [List.append_assoc]; rfl⟩, ?_⟩
          have sizedNew := memory.length_bytes (needed + 1)
          simp only [List.length_append, List.length_drop, sizedNew, List.length_singleton]
          omega
      · rw [if_neg large]
        exact ⟨buffer, rfl, holdsText, Nat.le_of_not_lt large⟩

theorem appendSubString_holds {self_ : GgString} {text region arg rest : List UInt8} (holds : Holds self_ text)
    (isRegion : region = arg ++ rest) (noNul : 0 ∉ arg) (small : text.length + arg.length < 2 ^ 31) :
    ∃ self', appendSubString memory self_ (some region) arg.length = .ok (.ok (), self') ∧ Holds self' (text ++ arg) := by
  by_cases empty : arg.length = 0
  · have none := List.length_eq_zero_iff.mp empty
    subst none
    exact ⟨self_, by simp only [appendSubString, if_pos empty], by rwa [List.append_nil]⟩
  · obtain ⟨buffer, reserves, holdsText, room⟩ := reserve_room memory holds small
    obtain ⟨tail, isChars⟩ := holdsText.chars
    have sized := holdsText.sized
    have lengths := congrArg List.length isChars
    simp only [List.length_append, List.length_cons] at lengths
    obtain ⟨tail', stores, keeps⟩ := store_text text arg (0 :: tail) isChars (by simp; omega)
    obtain ⟨chars, first, second⟩ := bind_ok stores
    refine ⟨some { buffer with length := text.length + arg.length, chars := text ++ arg ++ 0 :: tail' }, ?_, ?_⟩
    · simp only [appendSubString, if_neg empty, holds.length, reserves, ok_bind, Strings.buffer,
        loadBytes_text rest isRegion, first, second]
    · refine ⟨by simp, ?_, ⟨tail', rfl⟩, keeps.trans sized⟩
      have oldNoNul := holdsText.noNul
      simp [oldNoNul, noNul]

theorem append_holds {self_ : GgString} {text region arg : List UInt8} (holds : Holds self_ text)
    (isText : IsText region arg) (small : text.length + arg.length < 2 ^ 31) :
    ∃ self', append memory self_ (some region) = .ok (.ok (), self') ∧ Holds self' (text ++ arg) := by
  obtain ⟨rest, isRegion⟩ := isText.chars
  obtain ⟨c, loads, ends⟩ := load_first isText
  simp only [append, loads, ok_bind, strlen_text isText]
  by_cases empty : c = 0
  · rw [if_pos empty, ends.mp empty, List.append_nil]
    exact ⟨self_, rfl, holds⟩
  · rw [if_neg empty]
    exact appendSubString_holds memory holds isRegion isText.noNul small

/-- A new buffer with the first characters of a string. -/
theorem createFromStringN_holds {region text rest : List UInt8} (isRegion : region = text ++ rest) (noNul : 0 ∉ text)
    (small : text.length < 2 ^ 31) :
    ∃ self', createFromStringN memory region text.length = .ok self' ∧ Holds self' text := by
  have sized := memory.length_bytes (text.length + 1)
  obtain ⟨tail, stores, keeps⟩ := @store_text (memory.bytes (text.length + 1)) [] text (memory.bytes (text.length + 1))
    rfl (by omega)
  rw [List.length_nil, Nat.zero_add, List.nil_append] at stores
  obtain ⟨chars, first, second⟩ := bind_ok stores
  refine ⟨some ⟨text.length, text.length, text ++ 0 :: tail⟩, ?_, rfl, noNul, ⟨tail, rfl⟩, keeps.trans sized⟩
  simp only [createFromStringN, allocate_small memory text.length (by omega : text.length < 2 ^ 33),
    loadBytes_text rest isRegion, ok_bind, first, second]

theorem measure_text {region text : List UInt8} (isText : IsText region text) {length strLength : Nat}
    (more : strLength < length) : measure length strLength region = .ok (min length (strLength + text.length)) := by
  obtain ⟨noNul, rest, rfl⟩ := isText
  induction text generalizing strLength with
  | nil =>
      rw [List.nil_append, measure, if_pos rfl]
      simp [Nat.le_of_lt more]
  | cons c text ih =>
      have other : c ≠ 0 := fun nul => noNul (nul ▸ List.mem_cons_self)
      rw [List.cons_append, measure, if_neg other]
      by_cases last : strLength + 1 ≥ length
      · rw [if_pos last]
        simp
        omega
      · rw [if_neg last, ih (by omega) (fun nul => noNul (List.mem_cons_of_mem c nul)), List.length_cons]
        congr 2
        omega

theorem subString_holds {self_ : GgString} {text : List UInt8} (holds : Holds self_ text) (first length : Nat)
    (small : text.length < 2 ^ 31) :
    ∃ self', subString memory self_ first length = .ok self' ∧ Holds self' ((text.drop first).take length) := by
  have isText := holds.isText
  simp only [subString, createFromSubString]
  by_cases none : length = 0
  · rw [if_pos none, none, List.take_zero]
    exact ⟨_, rfl, rfl⟩
  · rw [if_neg none, strlen_text isText, ok_bind]
    by_cases inside : first < text.length
    · have part := isText.drop (Nat.le_of_lt inside)
      obtain ⟨noNul, rest, isRest⟩ := part
      have size : ((text.drop first).take length).length = min length (text.drop first).length := List.length_take
      have split : (getChars self_).drop first = (text.drop first).take length ++ ((text.drop first).drop length ++ 0 :: rest) := by
        rw [isRest, ← List.append_assoc, List.take_append_drop]
      rw [if_pos inside, measure_text ⟨noNul, rest, isRest⟩ (Nat.pos_of_ne_zero none), ok_bind, Nat.zero_add, ← size]
      have some : ((text.drop first).take length).length ≠ 0 := by
        rw [size, List.length_drop]
        omega
      rw [if_pos some]
      have fewer : ((text.drop first).take length).length ≤ text.length := by
        rw [size, List.length_drop]
        omega
      exact createFromStringN_holds memory split (fun nul => noNul (List.mem_of_mem_take nul)) (by omega)
    · rw [if_neg inside, List.drop_of_length_le (Nat.le_of_not_lt inside), List.take_nil]
      exact ⟨_, rfl, rfl⟩

theorem setLength_holds {self_ : GgString} {text : List UInt8} (holds : Holds self_ text) {length : Nat}
    (shorter : length ≤ text.length) :
    ∃ self', setLength self_ length = .ok (.ok (), self') ∧ Holds self' (text.take length) := by
  cases self_ with
  | none =>
      cases holds
      have zero : length = 0 := Nat.le_zero.mp shorter
      exact ⟨none, by rw [setLength, if_pos zero], List.take_nil⟩
  | some buffer =>
      have holdsText : HoldsText buffer text := holds
      obtain ⟨rest, isChars⟩ := holdsText.chars
      have sized := holdsText.sized
      have lengths := congrArg List.length isChars
      simp only [List.length_append, List.length_cons] at lengths
      have split : buffer.chars = text.take length ++ (text.drop length ++ 0 :: rest) := by
        rw [isChars, ← List.append_assoc, List.take_append_drop]
      have stores := store_behind (text.take length) (text.drop length ++ 0 :: rest) [0] (by simp; omega)
      rw [← split, List.length_take_of_le shorter] at stores
      refine ⟨some ⟨length, buffer.allocated, text.take length ++ [0] ++ (text.drop length ++ 0 :: rest).drop 1⟩, ?_, ?_⟩
      · rw [setLength, if_pos (by omega), stores, ok_bind]
        rfl
      · refine ⟨by simp [Nat.min_eq_left shorter], fun nul => holdsText.noNul (List.mem_of_mem_take nul), ?_, ?_⟩
        · exact ⟨_, by rw [List.append_assoc]; rfl⟩
        · rw [← sized, split]
          simp
          omega

theorem copyBeginning_text {self_ : GgString} {text : List UInt8} (holds : Holds self_ text) {place : Nat}
    (inside : place ≤ text.length) {chars : List UInt8} (room : place ≤ chars.length) :
    copyBeginning self_ place chars = .ok (text.take place ++ chars.drop place) := by
  have size := List.length_take_of_le inside
  by_cases some : place > 0
  · cases self_ with
    | none =>
        cases holds
        simp at inside
        omega
    | some src =>
        obtain ⟨rest, isChars⟩ := HoldsText.chars holds
        have split : src.chars = text.take place ++ (text.drop place ++ 0 :: rest) := by
          rw [isChars, ← List.append_assoc, List.take_append_drop]
        have loads := loadBytes_text _ split
        have stores := store_zero chars (text.take place) (by rwa [size])
        rw [size] at loads stores
        rw [copyBeginning, if_pos some]
        simp only [buffer, ok_bind, loads, stores]
  · have zero : place = 0 := Nat.eq_zero_of_not_pos some
    subst zero
    rfl

theorem copyEnd_text {self_ : GgString} {text : List UInt8} (holds : Holds self_ text) {place strLength : Nat}
    (inside : place ≤ text.length) (before rest : List UInt8) (length : before.length = place + strLength)
    (room : text.length - place ≤ rest.length) :
    ∃ rest', copyEnd self_ place strLength (before ++ 0 :: rest) = .ok (before ++ text.drop place ++ 0 :: rest') ∧
      (before ++ text.drop place ++ 0 :: rest').length = (before ++ 0 :: rest).length := by
  by_cases more : text.length > place
  · cases self_ with
    | none =>
        cases holds
        simp at more
    | some src =>
        have isText : IsText src.chars text := HoldsText.isText holds
        obtain ⟨-, rest₁, isRest⟩ := isText.drop inside
        have measures := strlen_text (isText.drop inside)
        have loads : loadBytes src.chars place ((text.drop place).length + 1) = .ok (text.drop place ++ [0]) := by
          have fits : place + ((text.drop place).length + 1) ≤ src.chars.length := by
            have lengths := congrArg List.length isRest
            simp only [List.length_drop, List.length_append, List.length_cons] at lengths ⊢
            omega
          have whole : text.drop place ++ 0 :: rest₁ = (text.drop place ++ [0]) ++ rest₁ := by simp
          rw [loadBytes, if_pos fits, isRest, whole, List.take_left' (by simp)]
        have stores := store_behind before (0 :: rest) (text.drop place ++ [0]) (by simp; omega)
        rw [length] at stores
        refine ⟨(0 :: rest).drop (text.drop place ++ [0]).length, ?_, ?_⟩
        · rw [copyEnd, if_pos (by rw [holds.length]; exact more)]
          simp only [buffer, ok_bind, measures, loads, stores]
          simp
        · simp
          omega
  · have all : text.drop place = [] := List.drop_of_length_le (Nat.le_of_not_lt more)
    refine ⟨rest, ?_, ?_⟩
    · rw [copyEnd, if_neg (by rw [holds.length]; exact more), all, List.append_nil]
    · rw [all, List.append_nil]

/-- The text goes between the characters before the place and those behind it. -/
theorem insert_holds {self_ : GgString} {text region arg : List UInt8} (holds : Holds self_ text)
    (isText : IsText region arg) {place : Nat} (inside : place ≤ text.length)
    (small : text.length + arg.length < 2 ^ 31) :
    ∃ self', insert memory self_ (some region) place = .ok (.ok (), self') ∧
      Holds self' (text.take place ++ arg ++ text.drop place) := by
  have length := holds.length
  simp only [insert]
  rw [if_neg (by omega), strlen_text isText, ok_bind]
  by_cases empty : arg.length = 0
  · have none := List.length_eq_zero_iff.mp empty
    subst none
    rw [if_pos empty]
    exact ⟨self_, rfl, by simpa using holds⟩
  rw [if_neg empty, length, allocate_small memory _ (by omega : arg.length + text.length < 2 ^ 33)]
  have sized := memory.length_bytes (arg.length + text.length + 1)
  have first := @copyBeginning_text self_ text holds place inside (memory.bytes (arg.length + text.length + 1)) (by omega)
  obtain ⟨rest, isRegion⟩ := isText.chars
  have loads : loadBytes region 0 (arg.length + 1) = .ok (arg ++ [0]) := by
    have whole := @loadBytes_text (arg ++ [0] ++ rest) (arg ++ [0]) rest rfl
    rw [isRegion]
    simpa using whole
  have second := store_behind (text.take place) ((memory.bytes (arg.length + text.length + 1)).drop place) (arg ++ [0])
    (by simp; omega)
  rw [List.length_take_of_le inside, ← List.append_assoc (text.take place), List.append_assoc _ [0],
    List.singleton_append] at second
  obtain ⟨tail, third, keeps⟩ := @copyEnd_text self_ text holds place arg.length inside (text.take place ++ arg)
    (((memory.bytes (arg.length + text.length + 1)).drop place).drop (arg ++ [0]).length) (by simp [inside])
    (by simp; omega)
  simp only [first, ok_bind, loads, second, third]
  have total : (text.take place ++ arg ++ text.drop place).length = arg.length + text.length := by
    simp
    omega
  have noNul : 0 ∉ text.take place ++ arg ++ text.drop place := by
    have old := holds.isText.noNul
    have new := isText.noNul
    have front : 0 ∉ text.take place := fun nul => old (List.mem_of_mem_take nul)
    have back : 0 ∉ text.drop place := fun nul => old (List.mem_of_mem_drop nul)
    simp [front, back, new]
  refine ⟨_, rfl, total.symm, noNul, ⟨tail, rfl⟩, keeps.trans ?_⟩
  simp
  omega

end Writing

/-! ## Trimming -/

theorem isOneOf_text {region set_ : List UInt8} (isText : IsText region set_) (c : UInt8) :
    isOneOf region c = .ok (decide (c ∈ set_)) := by
  obtain ⟨noNul, rest, rfl⟩ := isText
  induction set_ with
  | nil => rfl
  | cons x set_ ih =>
      have other : x ≠ 0 := fun nul => noNul (nul ▸ List.mem_cons_self)
      rw [List.cons_append, isOneOf, if_neg other, ih (fun nul => noNul (List.mem_cons_of_mem x nul))]
      by_cases same : x = c
      · simp [same]
      · simp [same, Ne.symm same]

theorem leftEnd_text {region set_ : List UInt8} (isSet : IsText region set_) {text : List UInt8} (noNul : 0 ∉ text)
    (rest : List UInt8) : leftEnd region (text ++ 0 :: rest) = .ok (text.takeWhile (· ∈ set_)).length := by
  induction text with
  | nil => rfl
  | cons c text ih =>
      have other : c ≠ 0 := fun nul => noNul (nul ▸ List.mem_cons_self)
      rw [List.cons_append, leftEnd, if_neg other, isOneOf_text isSet, ok_bind,
        ih (fun nul => noNul (List.mem_cons_of_mem c nul))]
      by_cases trimmed : c ∈ set_
      · simp [trimmed]
      · simp [trimmed]

/-- The characters behind a gap go to its front. -/
theorem shiftLeft_gap (text rest : List UInt8) (noNul : 0 ∉ text) {fuel : Nat} (enough : text.length < fuel)
    (done gap : List UInt8) (old : UInt8) :
    ∃ rest', shiftLeft fuel (done ++ old :: (gap ++ (text ++ 0 :: rest))) done.length (done.length + (gap.length + 1)) =
        .ok (done ++ text ++ 0 :: rest') ∧
      (done ++ text ++ 0 :: rest').length = (done ++ old :: (gap ++ (text ++ 0 :: rest))).length := by
  induction text generalizing fuel done gap old with
  | nil =>
      obtain ⟨fuel, rfl⟩ : ∃ k, fuel = k + 1 := ⟨fuel - 1, by omega⟩
      have loads := load_append (done ++ old :: gap) 0 rest
      have stores := store_at done old 0 (gap ++ 0 :: rest)
      rw [List.length_append, List.length_cons, List.append_assoc, List.cons_append] at loads
      refine ⟨gap ++ 0 :: rest, ?_, by simp⟩
      rw [shiftLeft, List.nil_append, loads, ok_bind, stores, ok_bind, List.append_nil]
      rfl
  | cons c text ih =>
      obtain ⟨fuel, rfl⟩ : ∃ k, fuel = k + 1 := ⟨fuel - 1, by omega⟩
      have other : c ≠ 0 := fun nul => noNul (nul ▸ List.mem_cons_self)
      have later : 0 ∉ text := fun nul => noNul (List.mem_cons_of_mem c nul)
      have loads := load_append (done ++ old :: gap) c (text ++ 0 :: rest)
      have stores := store_at done old c (gap ++ c :: (text ++ 0 :: rest))
      rw [List.length_append, List.length_cons, List.append_assoc, List.cons_append] at loads
      -- the gap moves on by one place
      obtain ⟨next, gap', isGap⟩ : ∃ next gap', gap ++ [c] = next :: gap' := by
        cases gap with
        | nil => exact ⟨c, [], rfl⟩
        | cons g gap => exact ⟨g, gap ++ [c], rfl⟩
      have moved : done ++ c :: (gap ++ c :: (text ++ 0 :: rest)) =
          (done ++ [c]) ++ next :: (gap' ++ (text ++ 0 :: rest)) := by
        have behind := congrArg (fun l => done ++ c :: (l ++ (text ++ 0 :: rest))) isGap
        simpa using behind
      have lengths := congrArg List.length isGap
      simp only [List.length_append, List.length_cons, List.length_nil] at lengths
      obtain ⟨rest', shifts, keeps⟩ := ih later (Nat.lt_of_succ_lt_succ enough) (done ++ [c]) gap' next
      rw [← moved] at shifts keeps
      refine ⟨rest', ?_, ?_⟩
      · rw [shiftLeft, List.cons_append, loads, ok_bind, stores, ok_bind, if_pos other]
        rw [List.length_append, List.length_singleton, List.append_assoc done [c] text] at shifts
        have place : done.length + (gap.length + 1) + 1 = done.length + 1 + (gap'.length + 1) := by omega
        rw [place]
        exact shifts
      · rw [List.append_assoc done [c] text] at keeps
        simpa using keeps

theorem trimCharsLeft_holds {self_ : GgString} {text region set_ : List UInt8} (holds : Holds self_ text)
    (isSet : IsText region set_) :
    ∃ self', trimCharsLeft self_ region = .ok self' ∧ Holds self' (text.dropWhile (· ∈ set_)) := by
  cases self_ with
  | none =>
      cases holds
      exact ⟨none, rfl, rfl⟩
  | some buffer =>
      have holdsText : HoldsText buffer text := holds
      obtain ⟨rest, isChars⟩ := holdsText.chars
      have split : text.takeWhile (· ∈ set_) ++ text.dropWhile (· ∈ set_) = text := List.takeWhile_append_dropWhile
      have trims : leftEnd region buffer.chars = .ok (text.takeWhile (· ∈ set_)).length := by
        rw [isChars]
        exact leftEnd_text isSet holdsText.noNul rest
      simp only [trimCharsLeft, trims, ok_bind]
      by_cases none : (text.takeWhile (· ∈ set_)).length = 0
      · rw [if_pos none]
        rw [List.length_eq_zero_iff.mp none, List.nil_append] at split
        exact ⟨_, rfl, by rw [split]; exact holds⟩
      · obtain ⟨old, gap, isGap⟩ := List.exists_cons_of_length_pos (Nat.pos_of_ne_zero none)
        have kept : 0 ∉ text.dropWhile (· ∈ set_) := by
          intro nul
          rw [← split] at holdsText
          exact holdsText.noNul (List.mem_append_right _ nul)
        have whole : buffer.chars = old :: (gap ++ (text.dropWhile (· ∈ set_) ++ 0 :: rest)) := by
          rw [isChars]
          nth_rewrite 1 [← split]
          rw [isGap]
          simp
        have enough : (text.dropWhile (· ∈ set_)).length < buffer.chars.length := by
          rw [whole]
          simp
          omega
        obtain ⟨rest', shifts, keeps⟩ := shiftLeft_gap _ rest kept enough [] gap old
        simp only [List.nil_append, List.length_nil, Nat.zero_add, ← whole] at shifts keeps
        rw [if_neg none, isGap, List.length_cons, shifts, ok_bind]
        refine ⟨_, rfl, ?_, kept, ⟨rest', rfl⟩, keeps.trans holdsText.sized⟩
        have lengths := congrArg List.length split
        rw [isGap, List.length_append, List.length_cons] at lengths
        have length := holdsText.length
        simp only []
        omega

/-- From the end, characters of the set become zeros. -/
theorem rightEnd_text {region set_ : List UInt8} (isSet : IsText region set_) (text tail : List UInt8) :
    rightEnd region text.length (text ++ tail) =
      .ok ((text.rdropWhile (· ∈ set_)).length, text.rdropWhile (· ∈ set_) ++
        List.replicate (text.length - (text.rdropWhile (· ∈ set_)).length) 0 ++ tail) := by
  induction text using List.reverseRecOn generalizing tail with
  | nil => rfl
  | append_singleton text c ih =>
      have loads := load_append text c tail
      have stores := store_at text c 0 tail
      rw [List.length_append, List.length_singleton, rightEnd, List.append_assoc, List.singleton_append, loads, ok_bind,
        isOneOf_text isSet, ok_bind]
      by_cases trimmed : c ∈ set_
      · have drops := List.rdropWhile_concat_pos (· ∈ set_) text c (by simpa using trimmed)
        have fewer := (List.rdropWhile_prefix (· ∈ set_) text).length_le
        have count : text.length + 1 - (text.rdropWhile (· ∈ set_)).length =
            text.length - (text.rdropWhile (· ∈ set_)).length + 1 := by omega
        have next := ih (0 :: tail)
        simp only [trimmed, decide_true, if_true, stores, ok_bind, next, drops, count, List.replicate_succ']
        simp
      · have stays := List.rdropWhile_concat_neg (· ∈ set_) text c (by simpa using trimmed)
        simp only [trimmed, decide_false, stays]
        simp

theorem trimCharsRight_holds {self_ : GgString} {text region set_ : List UInt8} (holds : Holds self_ text)
    (isSet : IsText region set_) (small : text.length < 2 ^ 31) :
    ∃ self', trimCharsRight self_ region = .ok self' ∧ Holds self' (text.rdropWhile (· ∈ set_)) := by
  cases self_ with
  | none =>
      cases holds
      exact ⟨none, rfl, by simp [Holds]⟩
  | some buffer =>
      have holdsText : HoldsText buffer text := holds
      obtain ⟨rest, isChars⟩ := holdsText.chars
      obtain ⟨c, loads, ends⟩ := load_first holdsText.isText
      have trims := rightEnd_text isSet text (0 :: rest)
      rw [← isChars, ← holdsText.length] at trims
      have isPrefix := List.rdropWhile_prefix (· ∈ set_) text
      have fewer := isPrefix.length_le
      simp only [trimCharsRight, loads, ok_bind, trims]
      by_cases empty : c = 0
      · rw [if_pos empty]
        have none := ends.mp empty
        subst none
        exact ⟨_, rfl, holds⟩
      · rw [if_neg empty]
        have length := holdsText.length
        have sized := holdsText.sized
        by_cases all : (text.rdropWhile (· ∈ set_)).length = buffer.length
        · have same := isPrefix.eq_of_length (all.trans length)
          rw [if_pos all, same, ← length, Nat.sub_self, List.replicate_zero, List.append_nil, ← isChars]
          exact ⟨_, rfl, holds⟩
        · have size : asSize (1 + asInt ((text.rdropWhile (· ∈ set_)).length - 1)) =
              (text.rdropWhile (· ∈ set_)).length := by
            rw [asInt_of_small (by omega) (by omega)]
            unfold asSize
            omega
          obtain ⟨n, isN⟩ : ∃ n, buffer.length - (text.rdropWhile (· ∈ set_)).length = n + 1 :=
            Nat.exists_eq_succ_of_ne_zero (by omega)
          rw [if_neg all, size, isN, List.replicate_succ]
          refine ⟨_, rfl, rfl, fun nul => holdsText.noNul (isPrefix.subset nul), ⟨_, by rw [List.append_assoc]; rfl⟩, ?_⟩
          rw [← sized, isChars]
          simp
          omega

/-! ## Looking for something -/

theorem stringStartsWith_text {region part : List UInt8} (isPart : IsText region part) {other text : List UInt8}
    (isText : IsText other text) :
    stringStartsWith other region = .ok (if part <+: text then 1 else if text <+: part then -1 else 0) := by
  obtain ⟨noNulPart, rest', rfl⟩ := isPart
  obtain ⟨noNul, rest, rfl⟩ := isText
  induction text generalizing part with
  | nil =>
      cases part with
      | nil => rfl
      | cons d part =>
          have notNul : d ≠ 0 := fun nul => noNulPart (nul ▸ List.mem_cons_self)
          simp [stringStartsWith, notNul, notNul.symm]
  | cons c text ih =>
      have notNul : c ≠ 0 := fun nul => noNul (nul ▸ List.mem_cons_self)
      cases part with
      | nil => simp [stringStartsWith, notNul]
      | cons d part =>
          have notNulPart : d ≠ 0 := fun nul => noNulPart (nul ▸ List.mem_cons_self)
          have next := ih (fun nul => noNulPart (List.mem_cons_of_mem d nul)) (fun nul => noNul (List.mem_cons_of_mem c nul))
          by_cases same : c = d
          · subst same
            simp only [List.cons_append, stringStartsWith, if_true, if_neg notNul, next, List.cons_prefix_cons, true_and]
          · have differ : ¬ d = c := fun eq => same eq.symm
            simp [stringStartsWith, same, differ, notNul, notNulPart]

/-- The result is the first of the places that have a property, or there is none. -/
def IsFirst (has : Nat → Prop) (places : Nat) (result : Int) : Prop :=
  result = -1 ∧ (∀ i < places, ¬ has i) ∨ ∃ i < places, result = i ∧ has i ∧ ∀ j < i, ¬ has j

/-- The result is the last of the places that have a property, or there is none. -/
def IsLast (has : Nat → Prop) (places : Nat) (result : Int) : Prop :=
  result = -1 ∧ (∀ i < places, ¬ has i) ∨ ∃ i < places, result = i ∧ has i ∧ ∀ j < places, i < j → ¬ has j

theorem startsWith_text {self_ : GgString} {text region part : List UInt8} (holds : Holds self_ text)
    (isPart : IsText region part) : startsWith self_ (some region) = .ok (decide (part <+: text)) := by
  simp only [startsWith, stringStartsWith_text isPart holds.isText, ok_bind]
  by_cases starts : part <+: text
  · simp [starts]
  · by_cases short : text <+: part
    · simp [starts, short]
    · simp [starts, short]

theorem endsWith_text {self_ : GgString} {text region part : List UInt8} (holds : Holds self_ text)
    (isPart : IsText region part) : endsWith self_ (some region) = .ok (decide (part <:+ text)) := by
  obtain ⟨c, loads, ends⟩ := load_first isPart
  simp only [endsWith, loads, ok_bind, strlen_text isPart, holds.length]
  by_cases empty : c = 0
  · rw [if_pos empty, ends.mp empty]
    simp
  · rw [if_neg empty]
    have some : part ≠ [] := fun none => empty (ends.mpr none)
    by_cases long : part.length > text.length
    · have notSuffix : ¬ part <:+ text := fun suffix => absurd suffix.length_le (by omega)
      rw [if_pos long]
      simp [notSuffix]
    · rw [if_neg long]
      cases self_ with
      | none =>
          cases holds
          exact absurd (List.length_eq_zero_iff.mp (Nat.le_zero.mp (Nat.le_of_not_gt long))) some
      | some buffer =>
          have isText : IsText buffer.chars text := HoldsText.isText holds
          have atEnd := isText.drop (Nat.sub_le text.length part.length)
          have size : (text.drop (text.length - part.length)).length = part.length := by
            rw [List.length_drop]
            omega
          have isSuffix : part <+: text.drop (text.length - part.length) ↔ part <:+ text := by
            rw [List.suffix_iff_eq_drop]
            exact ⟨fun isPrefix => isPrefix.eq_of_length size.symm, fun same => same ▸ List.prefix_rfl⟩
          have isShort : text.drop (text.length - part.length) <+: part ↔ part <:+ text := by
            rw [List.suffix_iff_eq_drop]
            exact ⟨fun isPrefix => (isPrefix.eq_of_length size).symm, fun same => same ▸ List.prefix_rfl⟩
          simp only [Strings.buffer, ok_bind, stringStartsWith_text isPart atEnd, isSuffix, isShort]
          by_cases suffix : part <:+ text
          · simp [suffix]
          · simp [suffix]

/-- The loop finds the first place that is not before its offset. -/
theorem findString_first {region part : List UInt8} (isPart : IsText region part) {text : List UInt8} {start : Nat}
    (small : text.length < 2 ^ 31) {offset : Nat} (src rest : List UInt8) (here : text.drop offset = src)
    (within : offset ≤ text.length) (noNul : 0 ∉ text) (after : start ≤ offset)
    (before : ∀ j < offset, ¬ (start ≤ j ∧ part <+: text.drop j)) :
    ∃ result, findString region offset (src ++ 0 :: rest) = .ok result ∧
      IsFirst (fun i => start ≤ i ∧ part <+: text.drop i) text.length result := by
  induction src generalizing offset with
  | nil =>
      have atEnd : text.length ≤ offset := List.drop_eq_nil_iff.mp here
      exact ⟨-1, rfl, .inl ⟨rfl, fun i inside => before i (by omega)⟩⟩
  | cons c src ih =>
      have inside : offset < text.length := by
        have lengths := congrArg List.length here
        simp only [List.length_drop, List.length_cons] at lengths
        omega
      have notNul : c ≠ 0 := by
        intro nul
        subst nul
        exact noNul (List.mem_of_mem_drop (here ▸ List.mem_cons_self))
      have isText : IsText (c :: src ++ 0 :: rest) (text.drop offset) :=
        ⟨fun nul => noNul (List.mem_of_mem_drop nul), rest, by rw [here]⟩
      have compares := stringStartsWith_text isPart isText
      rw [List.cons_append] at compares ⊢
      rw [findString, if_neg notNul, compares, ok_bind]
      by_cases starts : part <+: text.drop offset
      · refine ⟨offset, ?_, .inr ⟨offset, inside, rfl, ⟨after, starts⟩, before⟩⟩
        rw [if_pos starts, if_neg (by decide), if_pos rfl, asInt_of_small (by omega) (by omega)]
      · rw [if_neg starts]
        by_cases short : text.drop offset <+: part
        · -- what follows is shorter still
          refine ⟨-1, by rw [if_pos short, if_pos rfl], .inl ⟨rfl, fun i within ⟨later, starts'⟩ => ?_⟩⟩
          by_cases earlier : i < offset
          · exact before i earlier ⟨later, starts'⟩
          · have long := starts'.length_le
            have least := short.length_le
            rw [List.length_drop] at long least
            by_cases same : i = offset
            · exact starts (same ▸ starts')
            · omega
        · rw [if_neg short, if_neg (by decide), if_neg (by decide)]
          exact ih (by rw [← List.tail_drop, here, List.tail_cons]) inside (Nat.le_succ_of_le after)
            (Nat.forall_lt_succ_right.mpr ⟨before, fun ⟨_, starts'⟩ => starts starts'⟩)

theorem findStringFrom_first {self_ : GgString} {text region part : List UInt8} (holds : Holds self_ text)
    (isPart : IsText region part) (small : text.length < 2 ^ 31) (start : Nat) :
    ∃ result, findStringFrom self_ (some region) start = .ok result ∧
      IsFirst (fun i => start ≤ i ∧ part <+: text.drop i) text.length result := by
  simp only [findStringFrom, holds.length]
  by_cases behind : start ≥ text.length
  · exact ⟨-1, by rw [if_pos behind], .inl ⟨rfl, fun i inside ⟨later, _⟩ => absurd inside (by omega)⟩⟩
  · rw [if_neg behind]
    cases self_ with
    | none =>
        cases holds
        simp at behind
    | some buffer =>
        have isText : IsText buffer.chars text := HoldsText.isText holds
        have inside : start ≤ text.length := Nat.le_of_not_ge behind
        obtain ⟨-, rest, isRest⟩ := isText.drop inside
        simp only [Strings.buffer, ok_bind, isRest]
        exact findString_first isPart small _ rest rfl inside isText.noNul (Nat.le_refl start)
          (fun j earlier ⟨later, _⟩ => absurd earlier (Nat.not_lt.mpr later))

theorem findChar_first (c : UInt8) {text : List UInt8} {start : Nat} (small : text.length < 2 ^ 31) {offset : Nat}
    (src rest : List UInt8) (here : text.drop offset = src) (noNul : 0 ∉ text) (after : start ≤ offset)
    (before : ∀ j < offset, ¬ (start ≤ j ∧ text[j]? = some c)) :
    ∃ result, findChar c offset (src ++ 0 :: rest) = .ok result ∧
      IsFirst (fun i => start ≤ i ∧ text[i]? = some c) text.length result := by
  induction src generalizing offset with
  | nil =>
      have atEnd : text.length ≤ offset := List.drop_eq_nil_iff.mp here
      exact ⟨-1, rfl, .inl ⟨rfl, fun i inside => before i (by omega)⟩⟩
  | cons d src ih =>
      have isHead : text[offset]? = some d := by
        rw [← List.head?_drop, here, List.head?_cons]
      have inside : offset < text.length := (List.getElem?_eq_some_iff.mp isHead).1
      have notNul : d ≠ 0 := by
        intro nul
        subst nul
        exact noNul (List.mem_of_getElem? isHead)
      rw [List.cons_append, findChar, if_neg notNul]
      by_cases same : d = c
      · subst same
        refine ⟨offset, ?_, .inr ⟨offset, inside, rfl, ⟨after, isHead⟩, before⟩⟩
        rw [if_pos rfl, asInt_of_small (by omega) (by omega)]
      · rw [if_neg same]
        refine ih (by rw [← List.tail_drop, here, List.tail_cons]) (Nat.le_succ_of_le after)
          (Nat.forall_lt_succ_right.mpr ⟨before, ?_⟩)
        rw [isHead]
        exact fun ⟨_, isC⟩ => same (Option.some.inj isC)

theorem findCharFrom_first {self_ : GgString} {text : List UInt8} (holds : Holds self_ text)
    (small : text.length < 2 ^ 31) (c : UInt8) (start : Nat) :
    ∃ result, findCharFrom self_ c start = .ok result ∧
      IsFirst (fun i => start ≤ i ∧ text[i]? = some c) text.length result := by
  simp only [findCharFrom, holds.length]
  by_cases behind : start ≥ text.length
  · exact ⟨-1, by rw [if_pos behind], .inl ⟨rfl, fun i inside ⟨later, _⟩ => absurd inside (by omega)⟩⟩
  · rw [if_neg behind]
    cases self_ with
    | none =>
        cases holds
        simp at behind
    | some buffer =>
        have isText : IsText buffer.chars text := HoldsText.isText holds
        obtain ⟨-, rest, isRest⟩ := isText.drop (Nat.le_of_not_ge behind)
        simp only [Strings.buffer, ok_bind, isRest]
        exact findChar_first c small _ rest rfl isText.noNul (Nat.le_refl start)
          (fun j earlier ⟨later, _⟩ => absurd earlier (Nat.not_lt.mpr later))

/-! ## Looking backwards -/

theorem IsLast.found {has : Nat → Prop} {i : Nat} (here : has i) : IsLast has (i + 1) i :=
  .inr ⟨i, Nat.lt_succ_self i, rfl, here, fun j before after => absurd before (by omega)⟩

/-- Places without the property do not matter. -/
theorem IsLast.extend {has : Nat → Prop} {places more : Nat} {result : Int} (isLast : IsLast has places result)
    (further : places ≤ more) (without : ∀ i, places ≤ i → i < more → ¬ has i) : IsLast has more result := by
  cases isLast with
  | inl none =>
      refine .inl ⟨none.1, fun i inside => ?_⟩
      by_cases before : i < places
      · exact none.2 i before
      · exact without i (Nat.le_of_not_lt before) inside
  | inr some =>
      obtain ⟨i, inside, isResult, here, later⟩ := some
      refine .inr ⟨i, Nat.lt_of_lt_of_le inside further, isResult, here, fun j within after => ?_⟩
      by_cases before : j < places
      · exact later j before after
      · exact without j (Nat.le_of_not_lt before) within

theorem IsLast.skip {has : Nat → Prop} {i : Nat} {result : Int} (isLast : IsLast has i result) (without : ¬ has i) :
    IsLast has (i + 1) result := by
  apply isLast.extend (Nat.le_succ i)
  intro j after before
  have same : j = i := Nat.le_antisymm (Nat.le_of_lt_succ before) after
  exact same ▸ without

theorem reverseFind_last {region part other text : List UInt8} (isPart : IsText region part)
    (isText : IsText other text) {n : Nat} (inside : n ≤ text.length + 1) :
    ∃ result, reverseFind other region n = .ok result ∧ IsLast (fun i => part <+: text.drop i) n result := by
  induction n with
  | zero => exact ⟨-1, rfl, .inl ⟨rfl, fun i before => absurd before (Nat.not_lt_zero i)⟩⟩
  | succ i ih =>
      have atPlace := isText.drop (Nat.le_of_succ_le_succ inside)
      rw [reverseFind, stringStartsWith_text isPart atPlace, ok_bind]
      by_cases starts : part <+: text.drop i
      · rw [if_pos starts, if_pos rfl]
        exact ⟨i, rfl, IsLast.found starts⟩
      · obtain ⟨result, finds, isLast⟩ := ih (Nat.le_of_succ_le inside)
        have differs : (if text.drop i <+: part then (-1 : Int) else 0) ≠ 1 := by
          split <;> decide
        rw [if_neg starts, if_neg differs]
        exact ⟨result, finds, isLast.skip starts⟩

theorem reverseFindString_last {self_ : GgString} {text region part : List UInt8} (holds : Holds self_ text)
    (isPart : IsText region part) (small : text.length < 2 ^ 31) (smallPart : part.length < 2 ^ 31) :
    ∃ result, reverseFindString self_ region = .ok result ∧
      IsLast (fun i => part <+: text.drop i) (text.length + 1) result := by
  have behind : ∀ i, text.length + 1 - part.length ≤ i → i < text.length + 1 → ¬ part <+: text.drop i := by
    intro i later inside starts
    have fits := starts.length_le
    rw [List.length_drop] at fits
    omega
  have start : asInt (asSize (text.length - part.length)) = text.length - part.length := by
    rw [asInt_asSize]
    exact asInt_of_small (by omega) (by omega)
  rw [reverseFindString, strlen_text isPart, ok_bind, holds.length]
  simp only [start]
  by_cases long : (text.length : Int) - part.length < 0
  · refine ⟨-1, by rw [if_pos long], .inl ⟨rfl, fun i inside => behind i (by omega) inside⟩⟩
  · have places : ((text.length : Int) - part.length + 1).toNat = text.length + 1 - part.length := by omega
    rw [if_neg long, places]
    obtain ⟨result, finds, isLast⟩ := reverseFind_last isPart holds.isText
      (Nat.sub_le (text.length + 1) part.length)
    exact ⟨result, finds, isLast.extend (Nat.sub_le _ _) behind⟩

theorem reverseFindChar_last (src : List UInt8) (c : UInt8) {n : Nat} (inside : n ≤ src.length) :
    ∃ result, reverseFindChar src c n = .ok result ∧ IsLast (fun i => src[i]? = some c) n result := by
  induction n with
  | zero => exact ⟨-1, rfl, .inl ⟨rfl, fun i before => absurd before (Nat.not_lt_zero i)⟩⟩
  | succ i ih =>
      have isHere := List.getElem?_eq_getElem inside
      have loads : load src i = .ok src[i] := by
        rw [load, isHere]
      rw [reverseFindChar, loads, ok_bind]
      by_cases same : src[i] = c
      · rw [if_pos same]
        exact ⟨i, rfl, IsLast.found (isHere.trans (congrArg some same))⟩
      · obtain ⟨result, finds, isLast⟩ := ih (Nat.le_of_succ_le inside)
        rw [if_neg same]
        refine ⟨result, finds, isLast.skip ?_⟩
        rw [isHere]
        exact fun isC => same (Option.some.inj isC)

/-- `GG_String_ReverseFindCharFrom` finds the last place that is not one of so many from the end. -/
def FindsBackwards (self_ : GgString) (text : List UInt8) (c : UInt8) (start : UInt32) : Prop :=
  ∃ result, reverseFindCharFrom self_ c start = .ok result ∧
    IsLast (fun i => text[i]? = some c) (text.length - start.toNat) result

/-- The start is not so far behind the string that the index wraps around, or the character is not found there. -/
def StaysInside (self_ : GgString) (text : List UInt8) (c : UInt8) (start : UInt32) : Prop :=
  let wrapped := text.length + 2 ^ 32 - start.toNat
  start.toNat < text.length + 2 ^ 31 ∨
    wrapped ≤ (getChars self_).length ∧ c ∉ (getChars self_).take wrapped

theorem IsLast.congr {has has' : Nat → Prop} {places : Nat} {result : Int} (isLast : IsLast has places result)
    (same : ∀ i < places, (has i ↔ has' i)) : IsLast has' places result := by
  cases isLast with
  | inl none => exact .inl ⟨none.1, fun i inside => mt (same i inside).mpr (none.2 i inside)⟩
  | inr some =>
      obtain ⟨i, inside, isResult, here, later⟩ := some
      exact .inr ⟨i, inside, isResult, (same i inside).mp here, fun j within after => mt (same j within).mpr
        (later j within after)⟩

theorem IsLast.none_iff {has : Nat → Prop} {places : Nat} {result : Int} (isLast : IsLast has places result) :
    result = -1 ↔ ∀ i < places, ¬ has i := by
  cases isLast with
  | inl none => exact ⟨fun _ => none.2, fun _ => none.1⟩
  | inr some =>
      obtain ⟨i, inside, isResult, here, -⟩ := some
      refine ⟨fun isNone => ?_, fun without => absurd here (without i inside)⟩
      omega

theorem reverseFindChar_outside (src : List UInt8) (c : UInt8) {n : Nat} (outside : src.length < n) :
    reverseFindChar src c n = .error .outOfBounds := by
  obtain ⟨i, rfl⟩ : ∃ i, n = i + 1 := Nat.exists_eq_succ_of_ne_zero (by omega)
  have loads : load src i = .error .outOfBounds := by
    rw [load, List.getElem?_eq_none (Nat.le_of_lt_succ outside)]
  rw [reverseFindChar, loads]
  rfl

theorem mem_take_iff (src : List UInt8) (c : UInt8) (n : Nat) : c ∈ src.take n ↔ ∃ i < n, src[i]? = some c := by
  simp only [List.mem_take_iff_getElem, List.getElem?_eq_some_iff]
  constructor
  · intro ⟨i, inside, here⟩
    exact ⟨i, by omega, by omega, here⟩
  · intro ⟨i, before, inside, here⟩
    exact ⟨i, by omega, here⟩

theorem findsBackwards_iff {self_ : GgString} {text : List UInt8} (holds : Holds self_ text)
    (small : text.length < 2 ^ 31) (c : UInt8) (start : UInt32) :
    FindsBackwards self_ text c start ↔ StaysInside self_ text c start := by
  have bound : start.toNat < 2 ^ 32 := start.toNat_lt
  obtain ⟨-, rest, isChars⟩ := holds.isText
  simp only [FindsBackwards, reverseFindCharFrom, holds.length, asInt_asSize]
  by_cases wraps : start.toNat < text.length + 2 ^ 31
  · have index : asInt ((text.length : Int) - start.toNat - 1) = text.length - start.toNat - 1 :=
      asInt_of_small (by omega) (by omega)
    rw [index]
    refine ⟨fun _ => .inl wraps, fun _ => ?_⟩
    by_cases behind : (text.length : Int) - start.toNat - 1 < 0
    · exact ⟨-1, by rw [if_pos behind], .inl ⟨rfl, fun i inside => absurd inside (by omega)⟩⟩
    · have places : ((text.length : Int) - start.toNat - 1 + 1).toNat = text.length - start.toNat := by omega
      rw [if_neg behind, places]
      have fits : text.length - start.toNat ≤ (getChars self_).length := by
        rw [isChars]
        simp
        omega
      obtain ⟨result, finds, isLast⟩ := reverseFindChar_last (getChars self_) c fits
      refine ⟨result, finds, ?_⟩
      -- before the zero, the characters are those of the list
      apply isLast.congr
      intro i inside
      rw [isChars, List.getElem?_append_left (by omega)]
  · have index : asInt ((text.length : Int) - start.toNat - 1) = text.length - start.toNat - 1 + 2 ^ 32 :=
      asInt_wraps (by omega) (by omega)
    have places : ((text.length : Int) - start.toNat - 1 + 2 ^ 32 + 1).toNat = text.length + 2 ^ 32 - start.toNat := by
      omega
    have nothing : text.length - start.toNat = 0 := by omega
    rw [index, if_neg (by omega), places, nothing]
    have isNone : ∀ result, IsLast (fun i => text[i]? = some c) 0 result ↔ result = -1 := fun result =>
      ⟨fun isLast => isLast.none_iff.mpr (fun i before => absurd before (Nat.not_lt_zero i)),
        fun none => .inl ⟨none, fun i before => absurd before (Nat.not_lt_zero i)⟩⟩
    simp only [StaysInside, isNone, wraps, false_or]
    generalize text.length + 2 ^ 32 - start.toNat = wrapped
    by_cases fits : wrapped ≤ (getChars self_).length
    · obtain ⟨result, finds, isLast⟩ := reverseFindChar_last (getChars self_) c fits
      have absent := isLast.none_iff
      simp only [mem_take_iff, finds, fits, true_and]
      constructor
      · intro ⟨other, isOther, isNone⟩ ⟨i, before, here⟩
        cases isOther
        exact absent.mp isNone i before here
      · intro without
        exact ⟨result, rfl, absent.mpr (fun i before here => without ⟨i, before, here⟩)⟩
    · have reads := reverseFindChar_outside (getChars self_) c (Nat.lt_of_not_le fits)
      simp [reads, fits]

/-! ## All the operations -/

/-- What the operations do on a string is what those on lists do on the characters that it holds. -/
structure OperatesOnList (memory : Allocator) (self_ : GgString) (text : List UInt8) : Prop where
  assign : ∀ region arg, IsText region arg → arg.length < 2 ^ 31 →
    ∃ self', Strings.assign memory self_ (some region) = .ok (.ok (), self') ∧ Holds self' arg
  assignN : ∀ arg rest, 0 ∉ arg → arg.length < 2 ^ 31 →
    ∃ self', Strings.assignN memory self_ (some (arg ++ rest)) arg.length = .ok (.ok (), self') ∧ Holds self' arg
  append : ∀ region arg, IsText region arg → text.length + arg.length < 2 ^ 31 →
    ∃ self', Strings.append memory self_ (some region) = .ok (.ok (), self') ∧ Holds self' (text ++ arg)
  appendSubString : ∀ arg rest, 0 ∉ arg → text.length + arg.length < 2 ^ 31 →
    ∃ self', Strings.appendSubString memory self_ (some (arg ++ rest)) arg.length = .ok (.ok (), self') ∧
      Holds self' (text ++ arg)
  insert : ∀ region arg place, IsText region arg → text.length + arg.length < 2 ^ 31 → place ≤ text.length →
    ∃ self', Strings.insert memory self_ (some region) place = .ok (.ok (), self') ∧
      Holds self' (text.take place ++ arg ++ text.drop place)
  insertBehind : ∀ region place, text.length < place →
    Strings.insert memory self_ (some region) place = .ok (.error .invalidParameters, self_)
  setLength : ∀ length ≤ text.length,
    ∃ self', Strings.setLength self_ length = .ok (.ok (), self') ∧ Holds self' (text.take length)
  trimCharsLeft : ∀ region chars, IsText region chars →
    ∃ self', Strings.trimCharsLeft self_ region = .ok self' ∧ Holds self' (text.dropWhile (· ∈ chars))
  trimCharsRight : ∀ region chars, IsText region chars →
    ∃ self', Strings.trimCharsRight self_ region = .ok self' ∧ Holds self' (text.rdropWhile (· ∈ chars))
  subString : ∀ first length,
    ∃ part, Strings.subString memory self_ first length = .ok part ∧ Holds part ((text.drop first).take length)
  startsWith : ∀ region part, IsText region part →
    Strings.startsWith self_ (some region) = .ok (decide (part <+: text))
  endsWith : ∀ region part, IsText region part →
    Strings.endsWith self_ (some region) = .ok (decide (part <:+ text))
  findStringFrom : ∀ region part start, IsText region part →
    ∃ result, Strings.findStringFrom self_ (some region) start = .ok result ∧
      IsFirst (fun i => start ≤ i ∧ part <+: text.drop i) text.length result
  findCharFrom : ∀ c start, ∃ result, Strings.findCharFrom self_ c start = .ok result ∧
    IsFirst (fun i => start ≤ i ∧ text[i]? = some c) text.length result
  reverseFindString : ∀ region part, IsText region part → part.length < 2 ^ 31 →
    ∃ result, Strings.reverseFindString self_ region = .ok result ∧
      IsLast (fun i => part <+: text.drop i) (text.length + 1) result
  /-- Without an argument, the string is cleared by an assignment and else stays, and nothing is found. -/
  noArgument : Strings.assign memory self_ none = .ok (.ok (), none) ∧
    (∀ length, Strings.assignN memory self_ none length = .ok (.ok (), none)) ∧
    Strings.append memory self_ none = .ok (.ok (), self_) ∧
    (∀ length, Strings.appendSubString memory self_ none length = .ok (.ok (), self_)) ∧
    (∀ place, Strings.insert memory self_ none place = .ok (.ok (), self_)) ∧
    Strings.startsWith self_ none = .ok false ∧ Strings.endsWith self_ none = .ok false ∧
    ∀ start, Strings.findStringFrom self_ none start = .ok (-1)

theorem operatesOnList (memory : Allocator) {self_ : GgString} {text : List UInt8} (holds : Holds self_ text)
    (small : text.length < 2 ^ 31) : OperatesOnList memory self_ text where
  assign _ _ isText short := assign_holds memory holds isText short
  assignN _ _ noNul short := assignN_holds memory holds rfl noNul short
  append _ _ isText short := append_holds memory holds isText short
  appendSubString _ _ noNul short := appendSubString_holds memory holds rfl noNul short
  insert _ _ _ isText short inside := insert_holds memory holds isText inside short
  insertBehind region place behind := by
    rw [Strings.insert, if_pos (by rw [holds.length]; exact behind)]
  setLength _ shorter := setLength_holds holds shorter
  trimCharsLeft _ _ isSet := trimCharsLeft_holds holds isSet
  trimCharsRight _ _ isSet := trimCharsRight_holds holds isSet small
  subString first length := subString_holds memory holds first length small
  startsWith _ _ isPart := startsWith_text holds isPart
  endsWith _ _ isPart := endsWith_text holds isPart
  findStringFrom _ _ start isPart := findStringFrom_first holds isPart small start
  findCharFrom c start := findCharFrom_first holds small c start
  reverseFindString _ _ isPart short := reverseFindString_last holds isPart small short
  noArgument := ⟨rfl, fun _ => rfl, rfl, fun _ => rfl, fun _ => rfl, rfl, rfl, fun _ => rfl⟩

/-- Strings are lists of characters, as long as a search from the end does not start too far before the beginning. -/
theorem strings_as_lists (memory : Allocator) {self_ : GgString} {text : List UInt8} (holds : Holds self_ text)
    (small : text.length < 2 ^ 31) (c : UInt8) (start : UInt32) :
    OperatesOnList memory self_ text ∧ FindsBackwards self_ text c start ↔ StaysInside self_ text c start := by
  have others := operatesOnList memory holds small
  have backwards := findsBackwards_iff holds small c start
  exact ⟨fun both => backwards.mp both.2, fun inside => ⟨others, backwards.mpr inside⟩⟩

/-- Memory that is all zeros. -/
def zeroed : Allocator where
  bytes size := List.replicate size 0
  length_bytes _ := List.length_replicate

theorem holds_a : Holds (some ⟨1, 1, [97, 0]⟩) [97] :=
  ⟨rfl, by decide, ⟨[], rfl⟩, rfl⟩

theorem strings_as_lists_a :
    Holds (some ⟨1, 1, [97, 0]⟩) [97] ∧ [(97 : UInt8)].length < 2 ^ 31 ∧
      (OperatesOnList zeroed (some ⟨1, 1, [97, 0]⟩) [97] ∧ FindsBackwards (some ⟨1, 1, [97, 0]⟩) [97] 97 0 ↔
        StaysInside (some ⟨1, 1, [97, 0]⟩) [97] 97 0) :=
  ⟨holds_a, by decide, strings_as_lists zeroed holds_a (by decide) 97 0⟩

/-- Far before the beginning of `"a"`, the index becomes 1, and the `a` is found at 0. -/
theorem not_strings_as_lists :
    Holds (some ⟨1, 1, [97, 0]⟩) [97] ∧
      ¬ (OperatesOnList zeroed (some ⟨1, 1, [97, 0]⟩) [97] ∧ FindsBackwards (some ⟨1, 1, [97, 0]⟩) [97] 97 0xFFFFFFFF) := by
  refine ⟨holds_a, fun ⟨_, result, finds, isLast⟩ => ?_⟩
  have found : reverseFindCharFrom (some ⟨1, 1, [97, 0]⟩) 97 0xFFFFFFFF = .ok 0 := by decide
  rw [found] at finds
  cases finds
  have none := isLast.none_iff.mpr (fun i before => absurd before (Nat.not_lt_zero i))
  exact absurd none (by decide)

end GoldenGate.Strings
