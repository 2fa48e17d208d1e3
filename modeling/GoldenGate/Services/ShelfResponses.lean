import GoldenGate.Services.ShelfItems

/-! # The responses of the shelf

What the sender of a request sees of a response, the piece of a value that a block is, and the list of the names.
-/

namespace GoldenGate.TestService

open Coap Memory BlockMap Keyed

/-! ## Responses -/

/-- Whether a response tells that there are more blocks behind the one that it has. -/
def tellsMore (response : Content) : Bool :=
  match getBlockInfo response.options optionBlock2 0 with
  | .ok block2Info => block2Info.more
  | .error _ => false

/-- What the sender of a request sees of a result. -/
def outcomeOf : ShelfResult → Outcome
  | .error _ => .refused
  | .ok response => .answered response.payload (tellsMore response)

variable {heap : Heap} {context : ShelfContext} {item : ShelfItem} {request : Content}

/-- A response without a payload is just an answer. -/
theorem respond_done (few : context.responseOptions.length ≤ 2)
    (others : ∀ option ∈ context.responseOptions, option.number ≠ optionBlock2) (payload : Option (List UInt8))
    (block1Info : Option BlockInfo) :
    ∃ response, respondFromShelf context payload 0 block1Info none = .ok (context, .ok response) ∧
      outcomeOf (.ok response) = .answered [] false := by
  have empty : responsePayload payload 0 none = .ok [] := by
    cases payload with
    | none => rfl
    | some bytes =>
        have fits : 0 + 0 ≤ bytes.length := Nat.zero_le _
        rw [responsePayload, loadBytes, if_pos fits]
        rfl
  obtain ⟨code, creates⟩ := createResponse_room few block1Info none empty
  refine ⟨_, by rw [respondFromShelf, creates, ok_bind], ?_⟩
  have notTold : (context.responseOptions ++ (blockOptions block1Info optionBlock1 ++ blockOptions none optionBlock2)).find?
      (·.number = optionBlock2) = none := by
    rw [List.find?_eq_none]
    intro option member
    have distinct : optionBlock1 ≠ optionBlock2 := by decide
    have ofBlock := @number_of_blockOptions block1Info optionBlock1 option
    simp only [blockOptions, List.append_nil, List.mem_append] at member ofBlock
    grind
  simp only [outcomeOf, tellsMore, getBlockInfo, getOption, notTold]
  rfl

/-- A response with a piece of some bytes tells whether there are more. -/
theorem respond_piece (reset : context.responseOptions = []) {bytes : List UInt8} {size : Nat}
    (inside : size ≤ bytes.length) {block2Info : Option BlockInfo}
    (isSize : ∀ block, block2Info = some block → IsBlockSize block.size) :
    ∃ response, respondFromShelf context (some bytes) size none block2Info = .ok (context, .ok response) ∧
      outcomeOf (.ok response) = .answered (bytes.take size) (block2Info.any BlockInfo.more) := by
  have loads : responsePayload (some bytes) size block2Info = .ok (bytes.take size) := by
    have fits : 0 + size ≤ bytes.length := by omega
    exact if_pos fits
  obtain ⟨code, creates⟩ := createResponse_room (by rw [reset]; exact Nat.zero_le 2) none block2Info loads
  refine ⟨_, by rw [respondFromShelf, creates, ok_bind], ?_⟩
  simp only [outcomeOf, tellsMore, reset]
  cases block2Info with
  | none => rfl
  | some block =>
      obtain ⟨value, isValue, tells⟩ := BlockInfo.toOptionValue_spec (isSize block rfl)
      have options : [] ++ (blockOptions none optionBlock1 ++ blockOptions (some block) optionBlock2) =
          [⟨optionBlock2, .uint value⟩] := by simp only [blockOptions, isValue, List.nil_append]
      rw [options]
      simp [getBlockInfo, getOption, tells]

theorem askedBlock_isBlockSize {block : BlockInfo} (asks : askedBlock request = .ok block) :
    IsBlockSize block.size := by
  cases option : getOption request.options optionBlock2 with
  | error error =>
      simp only [askedBlock, getBlockInfo, option] at asks
      split at asks
      case isTrue =>
        cases asks
        exact ⟨6, by decide, rfl⟩
      case isFalse => cases asks
  | ok value =>
      have same : getBlockInfo request.options optionBlock2 0 = .ok block := by
        rw [← asks]
        simp only [askedBlock, getBlockInfo, option]
        cases value <;> rfl
      exact (getBlockInfo_isBlockSize same).1

/-- The block that is asked for, of a value that is there, is the piece of it, or there is none. -/
theorem processBlock2Option_piece (request : Content) {value : List UInt8} (some_ : value ≠ []) :
    (∃ code, processBlock2Option request maxPayloadChunkSize value.length = .error code ∧
      piece request value = .refused) ∨
    ∃ block chunkSize, processBlock2Option request maxPayloadChunkSize value.length = .ok (block, chunkSize) ∧
      block.offset + chunkSize ≤ value.length ∧ IsBlockSize block.size ∧
      piece request value = .answered ((value.drop block.offset).take chunkSize) block.more := by
  have length : value.length ≠ 0 := fun none_ => some_ (List.length_eq_zero_iff.mp none_)
  cases asks : askedBlock request with
  | error error =>
      refine .inl ⟨codeBadOption, ?_, ?_⟩
      · rw [askedBlock] at asks
        simp only [processBlock2Option, asks]
      · simp only [piece, if_neg some_, asks]
  | ok block =>
      have isSize := askedBlock_isBlockSize asks
      have begins := asks
      rw [askedBlock] at begins
      by_cases inside : block.offset < value.length
      · refine .inr ?_
        by_cases ends : block.offset + block.size ≥ value.length
        · refine ⟨{ block with more := false }, value.length - block.offset, ?_, by simp only; omega, isSize, ?_⟩
          · simp only [processBlock2Option, begins, if_neg length, adjustAndGetChunkSize,
              if_neg (Nat.not_le.mpr inside), if_pos ends]
          · have last : ¬block.offset + block.size < value.length := by omega
            simp only [piece, if_neg some_, asks, if_pos inside, last, decide_false]
            rw [List.take_of_length_le (by rw [List.length_drop]; omega),
              List.take_of_length_le (by rw [List.length_drop])]
        · refine ⟨{ block with more := true }, block.size, ?_, by simp only; omega, isSize, ?_⟩
          · simp only [processBlock2Option, begins, if_neg length, adjustAndGetChunkSize,
              if_neg (Nat.not_le.mpr inside), if_neg ends]
          · simp only [piece, if_neg some_, asks, if_pos inside, Nat.not_le.mp ends, decide_true]
      · refine .inl ⟨codeInternalServerError, ?_, ?_⟩
        · simp only [processBlock2Option, begins, if_neg length, adjustAndGetChunkSize, if_pos (Nat.le_of_not_lt inside)]
        · simp only [piece, if_neg some_, asks, if_neg inside]

/-! ## The list of names -/

/-- The names of the items, with commas in between. -/
def csv (items : List ShelfItem) : List UInt8 := [0x2C].intercalate (items.map ShelfItem.name)

theorem foldlM_putName (items : List ShelfItem) (done room : List UInt8)
    (enough : (items.flatMap fun item => item.name ++ [0x2C]).length ≤ room.length) :
    ∃ rest, items.foldlM putName (done ++ room, done.length) =
      .ok (done ++ (items.flatMap fun item => item.name ++ [0x2C]) ++ rest,
        done.length + (items.flatMap fun item => item.name ++ [0x2C]).length) := by
  induction items generalizing done room with
  | nil => exact ⟨room, by simp⟩
  | cons item items ih =>
      simp only [List.flatMap_cons, List.length_append, List.length_singleton] at enough
      have first := store_behind done room item.name (by omega)
      have second := store_behind (done ++ item.name) (room.drop item.name.length) [0x2C]
        (by rw [List.length_drop, List.length_singleton]; omega)
      obtain ⟨rest, goes⟩ := ih (done ++ item.name ++ [0x2C]) ((room.drop item.name.length).drop 1)
        (by rw [List.length_drop, List.length_drop]; omega)
      refine ⟨rest, ?_⟩
      rw [List.length_append] at second
      rw [List.foldlM_cons]
      simp only [putName, first, ok_bind, second]
      rw [List.length_append, List.length_append, List.length_singleton] at goes
      simp only [List.length_singleton]
      rw [goes]
      simp only [List.flatMap_cons, List.append_assoc, List.length_append, List.length_singleton, Nat.add_assoc]

/-- The names as they are written, each with a comma behind it. -/
theorem flatMap_names {items : List ShelfItem} (some_ : items ≠ []) :
    (items.flatMap fun item => item.name ++ [0x2C]) = csv items ++ [0x2C] := by
  induction items with
  | nil => exact absurd rfl some_
  | cons item items ih =>
      cases items with
      | nil => simp [csv]
      | cons next items =>
          rw [List.flatMap_cons, ih (List.cons_ne_nil _ _)]
          simp [csv]

theorem length_names (items : List ShelfItem) :
    (items.flatMap fun item => item.name ++ [0x2C]).length = items.length + (items.map (·.name.length)).sum := by
  induction items with
  | nil => rfl
  | cons item items ih =>
      simp only [List.flatMap_cons, List.length_append, ih, List.length_cons, List.length_nil, List.map_cons,
        List.sum_cons]
      omega

/-- The names are in the memory that there is for them. -/
theorem getShelfItemNamesCsv_gives (heap : Heap) (context : ShelfContext) :
    (getShelfItemNamesCsv heap context = .ok (.error .outOfMemory) ∧ heap.IsShort) ∨
      ∃ names, getShelfItemNamesCsv heap context = .ok (.ok (names, (csv context.shelfList).length)) ∧
        (csv context.shelfList ≠ [] → ∃ rest, names = some (csv context.shelfList ++ rest)) := by
  by_cases none_ : context.shelfList.length = 0
  · have empty := List.length_eq_zero_iff.mp none_
    refine .inr ⟨none, ?_, ?_⟩
    · simp only [getShelfItemNamesCsv, empty]
      rfl
    · intro some_
      rw [empty] at some_
      exact absurd rfl some_
  · have some_ : context.shelfList ≠ [] := fun empty => none_ (by rw [empty]; rfl)
    cases given : heap.allocate (context.shelfList.length + (context.shelfList.map (·.name.length)).sum) with
    | none => exact .inl ⟨by simp only [getShelfItemNamesCsv, if_neg none_, given], _, given⟩
    | some names =>
        have length := heap.length_allocate _ _ given
        rw [← length_names] at length
        obtain ⟨rest, writes⟩ := foldlM_putName context.shelfList [] names (Nat.le_of_eq length.symm)
        rw [flatMap_names some_] at writes
        refine .inr ⟨some (csv context.shelfList ++ ([0x2C] ++ rest)), ?_, fun _ => ⟨_, rfl⟩⟩
        simp only [List.nil_append, List.length_nil, Nat.zero_add, List.append_assoc] at writes
        simp only [getShelfItemNamesCsv, if_neg none_, given, writes, ok_bind, List.length_append,
          List.length_singleton, Nat.add_sub_cancel]

end GoldenGate.TestService
