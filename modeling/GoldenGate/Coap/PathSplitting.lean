import GoldenGate.Coap.Message
import GoldenGate.Lib.Segments

/-! # Splitting of paths and queries

The embedding of `GG_Coap_SplitPathOrQuery` in `gg_coap.c`. A pointer into the string is what is left
of its memory from there on, the null character included. The slots are counted by the in/out
parameter, and are not there when the components are only counted.
-/

namespace GoldenGate.Coap

open Memory Segments

/-- `GG_CoapMessageOptionParam`. A parameter is linked to another one by its index. -/
structure MessageOptionParam where
  option : MessageOption
  next : Option Nat
  deriving Repr, DecidableEq

/-- `while (*path_or_query == delimiter)`. -/
def skipDelimiters (delimiter : UInt8) : List UInt8 → Access (List UInt8)
  | [] => .error .outOfBounds
  | c :: rest => if c = delimiter then skipDelimiters delimiter rest else .ok (c :: rest)

/-- `while (*cursor && *cursor != delimiter)`. -/
def scanComponent (delimiter : UInt8) : List UInt8 → Access (List UInt8)
  | [] => .error .outOfBounds
  | c :: rest => if c ≠ 0 ∧ c ≠ delimiter then scanComponent delimiter rest else .ok (c :: rest)

/-- An option param is added to the array if one was passed. -/
def addOptionParam (optionNumber : UInt32) (pathOrQuery cursor : List UInt8) (componentsCount : Nat) :
    Option (List MessageOptionParam) → Access (Option (List MessageOptionParam))
  | none => .ok none
  | some optionParams =>
      if componentsCount < optionParams.length then
        let value := .string (some pathOrQuery) (pathOrQuery.length - cursor.length)
        .ok (some (optionParams.set componentsCount ⟨⟨optionNumber, value⟩, none⟩))
      else .error .outOfBounds

/-- What the function returns and leaves behind. -/
structure Split where
  result : Except Error Unit
  optionParams : Option (List MessageOptionParam)
  optionParamsCount : Nat
  deriving Repr, DecidableEq

/-- The loop over the components, which begins with the cursor at `path_or_query`. -/
def splitComponents (delimiter : UInt8) (optionNumber : UInt32) (optionParamsCount : Nat) :
    Nat → List UInt8 → Option (List MessageOptionParam) → Nat → Access Split
  | 0, _, _, _ => .error .diverges
  | fuel + 1, pathOrQuery, optionParams, componentsCount => do
      let first ← load pathOrQuery 0
      if first ≠ 0 ∧ (optionParams = none ∨ componentsCount < optionParamsCount) then
        let cursor ← scanComponent delimiter pathOrQuery
        if cursor = pathOrQuery then return ⟨.error .invalidSyntax, optionParams, optionParamsCount⟩
        let optionParams ← addOptionParam optionNumber pathOrQuery cursor componentsCount optionParams
        let next ← load cursor 0
        let cursor := if next = delimiter then cursor.drop 1 else cursor
        splitComponents delimiter optionNumber optionParamsCount fuel cursor optionParams (componentsCount + 1)
      else if first ≠ 0 then return ⟨.error .notEnoughSpace, optionParams, optionParamsCount⟩
      else return ⟨.ok (), optionParams, componentsCount⟩

/-- `GG_Coap_SplitPathOrQuery`. -/
def splitPathOrQuery (pathOrQuery : List UInt8) (delimiter : UInt8) (optionParams : Option (List MessageOptionParam))
    (optionParamsCount : Nat) (optionNumber : UInt32) : Access Split := do
  let pathOrQuery ← skipDelimiters delimiter pathOrQuery
  splitComponents delimiter optionNumber optionParamsCount (pathOrQuery.length + 1) pathOrQuery optionParams 0

/-! ## The components of a text -/

/-- A text without its leading delimiters. -/
def unled (delimiter : UInt8) (text : List UInt8) : List UInt8 := text.dropWhile (· = delimiter)

/-- What the components of a text are, the empty ones included. -/
def components (delimiter : UInt8) (text : List UInt8) : List (List UInt8) := pieces delimiter (unled delimiter text)

/-- How the pieces of a text are received when there is room for some of them. -/
def verdict (room : Nat) (found : List (List UInt8)) : Except Error Unit :=
  if [] ∈ found.take room then .error .invalidSyntax
  else if room < found.length then .error .notEnoughSpace
  else .ok ()

/-- The slot has a component in it. -/
def HasComponent (optionNumber : UInt32) (component : List UInt8) (param : MessageOptionParam) : Prop :=
  param.next = none ∧ param.option.number = optionNumber ∧
    ∃ chars, param.option.value = .string (some chars) component.length ∧ component <+: chars

/-- The components stand in the slots from an index on, and the slots outside of a range are as before. -/
structure Filled (optionNumber : UInt32) (first last : Nat) (found : List (List UInt8))
    (slots slots' : List MessageOptionParam) : Prop where
  length : slots'.length = slots.length
  outside : ∀ i, i < first ∨ last ≤ i → slots'[i]? = slots[i]?
  inside : ∀ i component, found[i]? = some component → ∃ param, slots'[first + i]? = some param ∧
    HasComponent optionNumber component param

section Loops

variable {delimiter : UInt8}

@[simp] theorem skipDelimiters_text {text : List UInt8} (visible : delimiter ≠ 0) :
    skipDelimiters delimiter (text ++ [0]) = .ok (unled delimiter text ++ [0]) := by
  induction text with
  | nil => simp [skipDelimiters, unled, Ne.symm visible]
  | cons c rest ih =>
      rw [List.cons_append, skipDelimiters]
      by_cases same : c = delimiter
      · simp [same, ih, unled]
      · simp [same, unled]

theorem scanComponent_text {piece rest : List UInt8} (plain : delimiter ∉ piece) (terminated : 0 ∉ piece)
    (ends : rest.head? = some 0 ∨ rest.head? = some delimiter) : scanComponent delimiter (piece ++ rest) = .ok rest := by
  induction piece with
  | nil =>
      cases rest with
      | nil => simp at ends
      | cons c rest => grind [scanComponent]
  | cons c piece ih => grind [scanComponent]

/-- One round of the loop, where there is room for a component. -/
theorem splitComponents_round {optionNumber : UInt32} {optionParamsCount fuel componentsCount : Nat}
    {optionParams : Option (List MessageOptionParam)} {text piece tail rest : List UInt8}
    (visible : delimiter ≠ 0) (terminated : 0 ∉ text) (some_ : text ≠ [])
    (room : optionParams = none ∨ componentsCount < optionParamsCount) (plain : delimiter ∉ piece)
    (whole : text = piece ++ tail) (ends : tail = [] ∧ rest = [] ∨ tail = delimiter :: rest) :
    splitComponents delimiter optionNumber optionParamsCount (fuel + 1) (text ++ [0]) optionParams componentsCount =
      if piece = [] then .ok ⟨.error .invalidSyntax, optionParams, optionParamsCount⟩
      else (do
        let optionParams' ← addOptionParam optionNumber (text ++ [0]) (tail ++ [0]) componentsCount optionParams
        splitComponents delimiter optionNumber optionParamsCount fuel (rest ++ [0]) optionParams'
          (componentsCount + 1)) := by
  obtain ⟨c, others, rfl⟩ := List.exists_cons_of_ne_nil some_
  have first : load (c :: others ++ [0]) 0 = .ok c := rfl
  have some' : c ≠ 0 := fun same => terminated (same ▸ List.mem_cons_self)
  have scanned : scanComponent delimiter (c :: others ++ [0]) = .ok (tail ++ [0]) := by
    rw [whole, List.append_assoc]
    refine scanComponent_text plain (fun member => terminated (whole ▸ List.mem_append_left _ member)) ?_
    rcases ends with ⟨rfl, -⟩ | rfl
    · exact .inl rfl
    · exact .inr rfl
  rw [splitComponents, first, ok_bind, if_pos ⟨some', room⟩, scanned, ok_bind]
  have stays : tail ++ [0] = c :: others ++ [0] ↔ piece = [] := by
    rw [whole, List.append_left_inj]
    exact List.self_eq_append_left
  simp only [stays]
  split
  · rfl
  · rcases ends with ⟨rfl, rfl⟩ | rfl
    · simp [load, Ne.symm visible]
    · simp [load]

/-- The end of the loop, where nothing is left. -/
theorem splitComponents_done (optionNumber : UInt32) (optionParamsCount fuel componentsCount : Nat)
    (optionParams : Option (List MessageOptionParam)) :
    splitComponents delimiter optionNumber optionParamsCount (fuel + 1) [0] optionParams componentsCount =
      .ok ⟨.ok (), optionParams, componentsCount⟩ := by
  simp [splitComponents, load]

/-- The end of the loop, where no slot is left. -/
theorem splitComponents_full {optionNumber : UInt32} {optionParamsCount fuel componentsCount : Nat}
    {slots : List MessageOptionParam} {text : List UInt8} (terminated : 0 ∉ text) (some_ : text ≠ [])
    (full : optionParamsCount ≤ componentsCount) :
    splitComponents delimiter optionNumber optionParamsCount (fuel + 1) (text ++ [0]) (some slots) componentsCount =
      .ok ⟨.error .notEnoughSpace, some slots, optionParamsCount⟩ := by
  obtain ⟨c, others, rfl⟩ := List.exists_cons_of_ne_nil some_
  have first : load (c :: others ++ [0]) 0 = .ok c := rfl
  have some' : c ≠ 0 := fun same => terminated (same ▸ List.mem_cons_self)
  have noRoom : ¬ (some slots = none ∨ componentsCount < optionParamsCount) := by simp [full]
  rw [splitComponents, first, ok_bind, if_neg fun h => noRoom h.2, if_pos some']
  rfl

end Loops

/-! ## The two passes -/

theorem verdict_empty (room : Nat) (found : List (List UInt8)) : verdict (room + 1) ([] :: found) = .error .invalidSyntax := by
  simp [verdict]

theorem verdict_cons {piece : List UInt8} (some_ : piece ≠ []) (room : Nat) (found : List (List UInt8)) :
    verdict (room + 1) (piece :: found) = verdict room found := by
  simp [verdict, some_.symm]

theorem verdict_full {found : List (List UInt8)} (some_ : found ≠ []) : verdict 0 found = .error .notEnoughSpace := by
  simp [verdict, List.length_pos_iff.mpr some_]

theorem Filled.refl (optionNumber : UInt32) (first last : Nat) (slots : List MessageOptionParam) :
    Filled optionNumber first last [] slots slots where
  length := rfl
  outside _ _ := rfl
  inside i component found := by simp at found

/-- A slot is set, and then those after it. -/
theorem Filled.cons {optionNumber : UInt32} {first last : Nat} {piece : List UInt8} {found : List (List UInt8)}
    {slots slots' : List MessageOptionParam} {param : MessageOptionParam} (within : first < last)
    (given : last ≤ slots.length) (has : HasComponent optionNumber piece param)
    (filled : Filled optionNumber (first + 1) last found (slots.set first param) slots') :
    Filled optionNumber first last (piece :: found) slots slots' where
  length := by simpa using filled.length
  outside i outside := by
    rw [filled.outside i (by omega), List.getElem?_set_ne (by omega)]
  inside i component there := by
    cases i with
    | zero =>
        cases there
        have kept := filled.outside first (.inl (Nat.lt_succ_self first))
        rw [List.getElem?_set_self (by omega)] at kept
        exact ⟨param, kept, has⟩
    | succ i =>
        obtain ⟨other, place, has⟩ := filled.inside i component there
        exact ⟨other, by rw [← place]; congr 1; omega, has⟩

section Passes

variable {delimiter : UInt8} (visible : delimiter ≠ 0) (optionNumber : UInt32)
include visible

/-- The pass that counts. -/
theorem splitComponents_counts (optionParamsCount fuel : Nat) {text : List UInt8} (terminated : 0 ∉ text)
    (enough : text.length < fuel) (componentsCount : Nat) :
    splitComponents delimiter optionNumber optionParamsCount fuel (text ++ [0]) none componentsCount =
      .ok (if [] ∈ pieces delimiter text then ⟨.error .invalidSyntax, none, optionParamsCount⟩
        else ⟨.ok (), none, componentsCount + (pieces delimiter text).length⟩) := by
  induction fuel generalizing text componentsCount with
  | zero => omega
  | succ fuel ih =>
      by_cases some_ : text = []
      · subst some_
        exact splitComponents_done optionNumber optionParamsCount fuel componentsCount none
      obtain ⟨piece, tail, rest, plain, whole, ends, shorter, found⟩ := exists_piece delimiter some_
      rw [splitComponents_round visible terminated some_ (.inl rfl) plain whole ends, found]
      by_cases empty : piece = []
      · simp [empty]
      · have terminated' : 0 ∉ rest := by grind
        have enough' : rest.length < fuel := by omega
        rw [if_neg empty, addOptionParam, ok_bind, ih terminated' enough']
        simp [Ne.symm empty, Nat.add_assoc, Nat.add_comm 1]

/-- The pass that fills the slots. -/
theorem splitComponents_fills {optionParamsCount : Nat} (fuel : Nat) {text : List UInt8} (terminated : 0 ∉ text)
    (enough : text.length < fuel) (slots : List MessageOptionParam) (given : optionParamsCount ≤ slots.length)
    (componentsCount : Nat) (within : componentsCount ≤ optionParamsCount) :
    ∃ slots' found, found <+: pieces delimiter text ∧
      Filled optionNumber componentsCount optionParamsCount found slots slots' ∧
      splitComponents delimiter optionNumber optionParamsCount fuel (text ++ [0]) (some slots) componentsCount =
        .ok ⟨verdict (optionParamsCount - componentsCount) (pieces delimiter text), some slots',
          if verdict (optionParamsCount - componentsCount) (pieces delimiter text) = .ok ()
          then componentsCount + (pieces delimiter text).length else optionParamsCount⟩ ∧
      (verdict (optionParamsCount - componentsCount) (pieces delimiter text) = .ok () → found = pieces delimiter text) := by
  induction fuel generalizing text slots componentsCount with
  | zero => omega
  | succ fuel ih =>
      by_cases some_ : text = []
      · subst some_
        refine ⟨slots, [], List.nil_prefix, .refl .., ?_, fun _ => rfl⟩
        simpa [verdict] using splitComponents_done optionNumber optionParamsCount fuel componentsCount (some slots)
      obtain ⟨piece, tail, rest, plain, whole, ends, shorter, found⟩ := exists_piece delimiter some_
      by_cases full : optionParamsCount ≤ componentsCount
      · have none_ : optionParamsCount - componentsCount = 0 := Nat.sub_eq_zero_of_le full
        rw [splitComponents_full terminated some_ full, found, none_, verdict_full (List.cons_ne_nil _ _)]
        exact ⟨slots, [], List.nil_prefix, .refl .., rfl, nofun⟩
      have room : componentsCount < optionParamsCount := Nat.lt_of_not_le full
      have left : optionParamsCount - componentsCount = optionParamsCount - (componentsCount + 1) + 1 := by omega
      rw [splitComponents_round visible terminated some_ (.inr room) plain whole ends, found, left]
      by_cases empty : piece = []
      · rw [if_pos empty, empty, verdict_empty]
        exact ⟨slots, [], List.nil_prefix, .refl .., rfl, nofun⟩
      · have terminated' : 0 ∉ rest := by grind
        have enough' : rest.length < fuel := by omega
        have size : (text ++ [0]).length - (tail ++ [0]).length = piece.length := by
          rw [whole]
          simp only [List.length_append]
          omega
        let param : MessageOptionParam := ⟨⟨optionNumber, .string (some (text ++ [0])) piece.length⟩, none⟩
        have has : HasComponent optionNumber piece param :=
          ⟨rfl, rfl, text ++ [0], rfl, ⟨tail ++ [0], by rw [whole, List.append_assoc]⟩⟩
        obtain ⟨slots', written, within', filled, runs, all⟩ := ih terminated' enough' (slots.set componentsCount param)
          (by rwa [List.length_set]) (componentsCount + 1) room
        refine ⟨slots', piece :: written, List.prefix_cons_inj piece |>.mpr within', filled.cons room given has, ?_, ?_⟩
        · rw [if_neg empty, addOptionParam, if_pos (by omega), size, ok_bind, runs, verdict_cons empty]
          simp only [List.length_cons, Nat.add_assoc, Nat.add_comm 1]
        · rw [verdict_cons empty]
          exact fun success => congrArg (piece :: ·) (all success)

end Passes

theorem verdict_ok_iff (room : Nat) (found : List (List UInt8)) :
    verdict room found = .ok () ↔ [] ∉ found ∧ found.length ≤ room := by
  unfold verdict
  by_cases few : found.length ≤ room
  · rw [List.take_of_length_le few]
    split <;> simp_all
  · simp only [not_le.mp few, if_true, few, and_false, iff_false]
    split <;> simp

theorem verdict_notEnoughSpace_iff {room : Nat} {found : List (List UInt8)} (some_ : [] ∉ found) :
    verdict room found = .error .notEnoughSpace ↔ room < found.length := by
  have early : [] ∉ found.take room := fun member => some_ (List.mem_of_mem_take member)
  simp [verdict, early]

theorem splitPathOrQuery_text {text : List UInt8} {delimiter : UInt8} (visible : delimiter ≠ 0)
    (optionParams : Option (List MessageOptionParam)) (optionParamsCount : Nat) (optionNumber : UInt32) :
    splitPathOrQuery (text ++ [0]) delimiter optionParams optionParamsCount optionNumber =
      splitComponents delimiter optionNumber optionParamsCount ((unled delimiter text ++ [0]).length + 1)
        (unled delimiter text ++ [0]) optionParams 0 := by
  rw [splitPathOrQuery, skipDelimiters_text visible, ok_bind]

/-- The components that are found are those of the text without its leading delimiters and without a
    trailing one, in both passes. -/
theorem path_is_split {text : List UInt8} {delimiter : UInt8} (terminated : 0 ∉ text) (visible : delimiter ≠ 0)
    (optionNumber : UInt32) {slots : List MessageOptionParam} {optionParamsCount : Nat}
    (given : optionParamsCount ≤ slots.length) (counted : Nat) :
    ∃ filled measured slots',
      splitPathOrQuery (text ++ [0]) delimiter (some slots) optionParamsCount optionNumber = .ok filled ∧
      splitPathOrQuery (text ++ [0]) delimiter none counted optionNumber = .ok measured ∧
      (filled.result = .ok () → ∃ found : List (List UInt8), found.length = filled.optionParamsCount ∧ found.length ≤ optionParamsCount ∧
        (∀ component ∈ found, component ≠ [] ∧ delimiter ∉ component) ∧
        [delimiter].intercalate found = unterminated delimiter (unled delimiter text) ∧
        ∀ (i : Nat) component, found[i]? = some component →
          ∃ param, slots'[i]? = some param ∧ HasComponent optionNumber component param) ∧
      (filled.result = .ok () → measured.result = .ok () ∧ measured.optionParamsCount = filled.optionParamsCount) ∧
      (measured.result = .ok () → (filled.result = .ok () ↔ measured.optionParamsCount ≤ optionParamsCount)) ∧
      ([] ∉ components delimiter text →
        (filled.result = .error .notEnoughSpace ↔ optionParamsCount < (components delimiter text).length)) ∧
      filled.optionParams = some slots' ∧ slots'.length = slots.length ∧
      slots'.drop optionParamsCount = slots.drop optionParamsCount ∧
      (filled.result ≠ .ok () → filled.optionParamsCount = optionParamsCount) ∧
      (measured.result ≠ .ok () → measured.optionParamsCount = counted) := by
  have terminated' : 0 ∉ unled delimiter text := fun member => terminated ((List.dropWhile_sublist _).mem member)
  have enough : (unled delimiter text).length < (unled delimiter text ++ [0]).length + 1 := by
    rw [List.length_append, List.length_singleton]
    omega
  have counts := splitComponents_counts visible optionNumber counted _ terminated' enough 0
  obtain ⟨slots', written, -, filled, fills, all⟩ :=
    splitComponents_fills visible optionNumber _ terminated' enough slots given 0 (Nat.zero_le _)
  rw [Nat.sub_zero, Nat.zero_add] at fills
  rw [Nat.sub_zero] at all
  rw [Nat.zero_add] at counts
  let found := pieces delimiter (unled delimiter text)
  have verdictOk := verdict_ok_iff optionParamsCount found
  have measuredOk (split : Split) (is : split = if [] ∈ found then ⟨.error .invalidSyntax, none, counted⟩
      else ⟨.ok (), none, found.length⟩) :
      (split.result = .ok () ↔ [] ∉ found) ∧ ([] ∉ found → split.optionParamsCount = found.length) ∧
        (split.result ≠ .ok () → split.optionParamsCount = counted) := by
    grind
  obtain ⟨success, report, kept⟩ := measuredOk _ rfl
  refine ⟨_, _, slots', (splitPathOrQuery_text visible ..).trans fills, (splitPathOrQuery_text visible ..).trans counts,
    ?_, ?_, ?_, ?_, rfl, filled.length, ?_, fun failed => if_neg failed, kept⟩
  · intro isOk
    have few := verdictOk.mp isOk
    cases all isOk
    refine ⟨found, (if_pos isOk).symm, few.2, fun component member => ⟨?_, not_mem_pieces delimiter member⟩,
      intercalate_pieces delimiter _, fun i component there => ?_⟩
    · rintro rfl
      exact few.1 member
    · simpa using filled.inside i component there
  · intro isOk
    have few := verdictOk.mp isOk
    exact ⟨success.mpr few.1, (report few.1).trans (if_pos isOk).symm⟩
  · intro isOk
    have some_ := success.mp isOk
    rw [report some_]
    exact verdictOk.trans (and_iff_right some_)
  · exact fun some_ => verdict_notEnoughSpace_iff some_
  · refine List.ext_getElem? fun i => ?_
    rw [List.getElem?_drop, List.getElem?_drop, filled.outside _ (.inr (Nat.le_add_right _ _))]

/-- The components of `//ab/c/`. -/
theorem path_is_split_trailing :
    ∃ filled, splitPathOrQuery [0x2F, 0x2F, 0x61, 0x62, 0x2F, 0x63, 0x2F, 0] 0x2F
      (some (List.replicate 3 ⟨⟨0, .empty⟩, none⟩)) 2 optionUriPath = .ok filled ∧ filled.optionParamsCount = 2 := by
  obtain ⟨filled, measured, slots', fills, -⟩ := @path_is_split [0x2F, 0x2F, 0x61, 0x62, 0x2F, 0x63, 0x2F] 0x2F
    (by decide) (by decide) optionUriPath (List.replicate 3 ⟨⟨0, .empty⟩, none⟩) 2 (by decide) 0
  refine ⟨filled, fills, ?_⟩
  cases fills
  rfl

end GoldenGate.Coap
