import GoldenGate.Lib.BlockMap
import GoldenGate.Services.Shelf

/-! # The shelf as a map

What the shelf is for: a map from names to bytes, which are put and read in blocks, and the name of the item that is
being uploaded without one. A request has an outcome, which the sender sees, and an effect on the map.
-/

namespace GoldenGate.TestService

open Coap BlockMap

/-- What the sender of a request sees: some bytes, and whether there are more, or a failure. -/
inductive Outcome where
  | answered (payload : List UInt8) (more : Bool)
  | refused
  deriving Repr, DecidableEq

/-- The offset of the block that a request is, and the start if it is none. -/
def blockOffset (request : Content) : Nat :=
  match getBlockInfo request.options optionBlock1 0 with
  | .ok block1Info => block1Info.offset
  | .error _ => 0

/-- No more blocks of an upload follow. -/
def EndsUpload (request : Content) : Prop :=
  ∀ block1Info, getBlockInfo request.options optionBlock1 0 = .ok block1Info → block1Info.more = false

/-- The block that a request asks for. -/
def askedBlock (request : Content) : Except Error BlockInfo :=
  getBlockInfo request.options optionBlock2 maxPayloadChunkSize

/-- The piece of a value that a request asks for. -/
def piece (request : Content) (value : List UInt8) : Outcome :=
  if value = [] then .answered [] false
  else
    match askedBlock request with
    | .error _ => .refused
    | .ok block =>
        if block.offset < value.length then
          .answered ((value.drop block.offset).take block.size) (block.offset + block.size < value.length)
        else .refused

/-- The values, and the name of the item that is being uploaded. -/
structure MapShelf where
  contents : List UInt8 → Option (List UInt8)
  active : Option (List UInt8)

namespace MapShelf

def empty : MapShelf := ⟨fun _ => none, none⟩

/-- A block is written into a value: behind its end this is refused, and a value is there afterwards in any case. -/
inductive Writes (heap : Heap) (request : Content) (name value : List UInt8) :
    Outcome → Effect (List UInt8) UInt8 → Prop where
  | behind : value.length < blockOffset request → Writes heap request name value .refused (.ensured name)
  | noMemory : heap.IsShort → Writes heap request name value .refused (.ensured name)
  | written : blockOffset request ≤ value.length →
      Writes heap request name value (.answered [] false) (.wrote name (blockOffset request) request.payload)

/-- The item that is uploaded goes on being so, unless the upload ends. -/
inductive StaysActive (request : Content) (name : List UInt8) : Outcome → Option (List UInt8) → Prop where
  | refused : StaysActive request name .refused (some name)
  | more {payload : List UInt8} {more : Bool} :
      ¬EndsUpload request → StaysActive request name (.answered payload more) (some name)
  | ends {payload : List UInt8} {more : Bool} :
      EndsUpload request → StaysActive request name (.answered payload more) none

/-- How a request is handled: its outcome, its effect, and the item that is being uploaded afterwards. -/
inductive Handles (heap : Heap) (shelf : MapShelf) (request : Content) :
    Outcome → Effect (List UInt8) UInt8 → Option (List UInt8) → Prop where
  | list {names : List (List UInt8)} : shelfName request = .ok none → request.code = methodGet →
      names.Nodup → (∀ name, name ∈ names ↔ shelf.contents name ≠ none) →
      Handles heap shelf request (piece request ([0x2C].intercalate names)) .kept shelf.active
  | post {name : List UInt8} {outcome : Outcome} {effect : Effect (List UInt8) UInt8} {active : Option (List UInt8)} :
      shelfName request = .ok none → request.code = methodPost →
      shelf.active = some name ∨ shelf.active = none ∧ shelf.contents name = none ∧ name.length ≤ maxShelfNameLength →
      Writes heap request name ((shelf.contents name).getD []) outcome effect →
      StaysActive request name outcome active →
      Handles heap shelf request outcome effect active
  | noMemory : shelfName request = .ok none → request.code ≠ methodDelete → heap.IsShort →
      Handles heap shelf request .refused .kept shelf.active
  | deleteAll : shelfName request = .ok none → request.code = methodDelete →
      Handles heap shelf request (.answered [] false) .cleared none
  | get {name value : List UInt8} : shelfName request = .ok (some name) → request.code = methodGet →
      shelf.contents name = some value → Handles heap shelf request (piece request value) .kept shelf.active
  | put {name : List UInt8} {outcome : Outcome} {effect : Effect (List UInt8) UInt8} :
      shelfName request = .ok (some name) → request.code = methodPut →
      (shelf.contents name = none → name.length ≤ maxShelfNameLength) →
      Writes heap request name ((shelf.contents name).getD []) outcome effect →
      Handles heap shelf request outcome effect shelf.active
  | tooLong {name : List UInt8} : shelfName request = .ok (some name) → request.code = methodPut →
      shelf.contents name = none → maxShelfNameLength < name.length →
      Handles heap shelf request .refused .kept shelf.active
  | delete {name value : List UInt8} : shelfName request = .ok (some name) → request.code = methodDelete →
      shelf.contents name = some value →
      Handles heap shelf request (.answered [] false) (.removed name)
        (if shelf.active = some name then none else shelf.active)
  | missing {name : List UInt8} : shelfName request = .ok (some name) →
      request.code = methodGet ∨ request.code = methodDelete → shelf.contents name = none →
      Handles heap shelf request .refused .kept shelf.active
  | noMethod {name : Option (List UInt8)} : shelfName request = .ok name →
      request.code ≠ methodGet → request.code ≠ methodDelete → (name = none → request.code ≠ methodPost) →
      (name ≠ none → request.code ≠ methodPut) → Handles heap shelf request .refused .kept shelf.active

/-- A request that is handled, with the memory there is then. -/
structure Entry where
  heap : Heap
  request : Content
  outcome : Outcome
  effect : Effect (List UInt8) UInt8

/-- Some requests are handled, one after the other. -/
def Run (shelf : MapShelf) : List Entry → MapShelf → Prop
  | [], shelf' => shelf' = shelf
  | entry :: entries, shelf' =>
      ∃ active, shelf.Handles entry.heap entry.request entry.outcome entry.effect active ∧
        Run ⟨entry.effect.apply shelf.contents, active⟩ entries shelf'

variable {shelf shelf' : MapShelf} {entries : List Entry}

theorem run_append {before after : List Entry} :
    shelf.Run (before ++ after) shelf' ↔ ∃ between, shelf.Run before between ∧ between.Run after shelf' := by
  induction before generalizing shelf with
  | nil => simp [Run]
  | cons entry before ih =>
      simp only [List.cons_append, Run, ih]
      constructor
      · intro ⟨active, handles, between, first, rest⟩
        exact ⟨between, ⟨active, handles, first⟩, rest⟩
      · intro ⟨between, ⟨active, handles, first⟩, rest⟩
        exact ⟨active, handles, between, first, rest⟩

/-- What is on a shelf after some requests. -/
theorem Run.contents (run : shelf.Run entries shelf') :
    shelf'.contents = BlockMap.run shelf.contents (entries.map Entry.effect) := by
  induction entries generalizing shelf with
  | nil =>
      cases run
      rfl
  | cons entry entries ih =>
      obtain ⟨active, -, rest⟩ := run
      exact ih rest

/-- The values after some requests to an empty shelf. -/
def contentsAfter (entries : List Entry) : List UInt8 → Option (List UInt8) :=
  BlockMap.run empty.contents (entries.map Entry.effect)

/-- Blocks that are written from the start on, each where the one before it ends, replace a value, whatever else is
    requested in between. -/
def UploadsReplace (entries : List Entry) : Prop :=
  ∀ before during after name blocks, entries = before ++ during ++ after → blocks ≠ [] →
    (during.map Entry.effect).filter (·.Touches name) = writes name 0 blocks →
    contentsAfter (before ++ during) name = some blocks.flatten

theorem uploads_replace (entries : List Entry) : UploadsReplace entries := by
  intro before during after name blocks _ some_ only
  rw [contentsAfter, List.map_append, BlockMap.run, List.foldl_append]
  exact run_upload _ some_ only

/-! ## Downloads -/

/-- A GET of a named item is answered with a piece at an offset. -/
structure Entry.Gets (entry : Entry) (name : List UInt8) (offset : Nat) (piece : List UInt8) (more : Bool) : Prop where
  name : shelfName entry.request = .ok (some name)
  method : entry.request.code = methodGet
  block : ∃ block, askedBlock entry.request = .ok block ∧ block.offset = offset
  outcome : entry.outcome = .answered piece more

/-- A blockwise GET: each block is asked for at the offset where the one before it ends, until there are no more. -/
inductive IsBlockwiseGet (name : List UInt8) : Nat → List Entry → List (List UInt8) → Prop where
  | last {offset : Nat} {entry : Entry} {piece : List UInt8} :
      entry.Gets name offset piece false → IsBlockwiseGet name offset [entry] [piece]
  | more {offset : Nat} {entry : Entry} {entries : List Entry} {piece : List UInt8} {pieces : List (List UInt8)} :
      entry.Gets name offset piece true → IsBlockwiseGet name (offset + piece.length) entries pieces →
      IsBlockwiseGet name offset (entry :: entries) (piece :: pieces)

/-- A GET shows a piece of the value. -/
theorem Handles.gets {entry : Entry} {active : Option (List UInt8)}
    (handles : shelf.Handles entry.heap entry.request entry.outcome entry.effect active) {name : List UInt8}
    {offset : Nat} {shown : List UInt8} {more : Bool} (gets : entry.Gets name offset shown more) {value : List UInt8}
    (holds : shelf.contents name = some value) : entry.outcome = piece entry.request value := by
  obtain ⟨heap, request, outcome, effect⟩ := entry
  obtain ⟨isName, isGet, -, isOutcome⟩ := gets
  simp only at isName isGet isOutcome handles ⊢
  have distinct : methodGet ≠ methodPut ∧ methodGet ≠ methodDelete ∧ methodGet ≠ methodPost := by decide
  cases handles with
  | get named _ stored =>
      rw [isName] at named
      cases named
      rw [holds] at stored
      cases stored
      rfl
  | missing named _ absent =>
      rw [isName] at named
      cases named
      rw [holds] at absent
      cases absent
  | list named | post named | noMemory named | deleteAll named =>
      rw [isName] at named
      cases named
  | put _ isPut | tooLong _ isPut => exact absurd (isGet.symm.trans isPut) distinct.1
  | delete _ isDelete => exact absurd (isGet.symm.trans isDelete) distinct.2.1
  | noMethod _ notGet => exact absurd isGet notGet

/-- As long as a value stays, it is what all GETs of it show pieces of. -/
theorem Run.gets (run : shelf.Run entries shelf') {name value : List UInt8} (holds : shelf.contents name = some value)
    (untouched : ∀ entry ∈ entries, entry.effect.Touches name = false) {entry : Entry} (member : entry ∈ entries)
    {offset : Nat} {shown : List UInt8} {more : Bool} (gets : entry.Gets name offset shown more) :
    entry.outcome = piece entry.request value := by
  induction entries generalizing shelf with
  | nil => exact absurd member List.not_mem_nil
  | cons first entries ih =>
      obtain ⟨active, handles, rest⟩ := run
      cases member with
      | head => exact handles.gets gets holds
      | tail _ member =>
          have still := first.effect.apply_untouched holds (untouched first List.mem_cons_self)
          exact ih rest still (fun entry later => untouched entry (List.mem_cons_of_mem first later)) member

theorem IsBlockwiseGet.of_mem {name : List UInt8} {offset : Nat} {gets : List Entry} {pieces : List (List UInt8)}
    (blockwise : IsBlockwiseGet name offset gets pieces) {entry : Entry} (member : entry ∈ gets) :
    ∃ offset shown more, entry.Gets name offset shown more := by
  induction blockwise with
  | last gets =>
      cases List.mem_singleton.mp member
      exact ⟨_, _, _, gets⟩
  | more gets _ ih =>
      cases member with
      | head => exact ⟨_, _, _, gets⟩
      | tail _ member => exact ih member

/-- The pieces of a blockwise GET are a download of the value. -/
theorem IsBlockwiseGet.download {name value : List UInt8} {offset : Nat} {gets : List Entry}
    {pieces : List (List UInt8)} (blockwise : IsBlockwiseGet name offset gets pieces)
    (shows_ : ∀ entry ∈ gets, entry.outcome = piece entry.request value) : IsDownload value offset pieces := by
  have pieceOf {entry : Entry} {offset : Nat} {shown : List UInt8} {more : Bool}
      (gets : entry.Gets name offset shown more) (isPiece : entry.outcome = piece entry.request value) :
      ∃ size, shown = (value.drop offset).take size ∧ (more = true ↔ offset + size < value.length) := by
    obtain ⟨block, asks, rfl⟩ := gets.block
    rw [gets.outcome, piece, asks] at isPiece
    split at isPiece
    case isTrue empty =>
      cases isPiece
      exact ⟨block.size, by simp [empty], by simp [empty]⟩
    case isFalse =>
      simp only at isPiece
      split at isPiece
      case isTrue inside =>
        cases isPiece
        exact ⟨block.size, rfl, decide_eq_true_iff⟩
      case isFalse => cases isPiece
  induction blockwise with
  | last gets =>
      obtain ⟨size, rfl, more⟩ := pieceOf gets (shows_ _ List.mem_cons_self)
      have ends : ¬_ < _ := fun inside => Bool.noConfusion (more.mpr inside)
      exact .last (Nat.le_of_not_lt ends)
  | @more offset _ _ _ _ gets _ ih =>
      obtain ⟨size, rfl, more⟩ := pieceOf gets (shows_ _ List.mem_cons_self)
      have inside := more.mp rfl
      have length : ((value.drop offset).take size).length = size := by
        apply List.length_take_of_le
        rw [List.length_drop]
        omega
      rw [length] at ih
      exact .more inside (ih fun entry later => shows_ entry (List.mem_cons_of_mem _ later))

/-- A blockwise GET tells the value, if it stays the same in the meantime. -/
theorem Run.download (run : shelf.Run entries shelf') {name value : List UInt8}
    (holds : shelf.contents name = some value)
    (untouched : ∀ entry ∈ entries, entry.effect.Touches name = false) {gets : List Entry}
    (within : gets.Sublist entries) {pieces : List (List UInt8)} (blockwise : IsBlockwiseGet name 0 gets pieces) :
    pieces.flatten = value := by
  have download := blockwise.download fun entry member => by
    obtain ⟨offset, shown, more, gets⟩ := blockwise.of_mem member
    exact run.gets holds untouched (within.subset member) gets
  rw [download.flatten, List.drop_zero]

/-- The pieces of a blockwise GET make up the value, if it stays the same in the meantime. -/
def DownloadsShow (entries : List Entry) : Prop :=
  ∀ before during after name value gets pieces, entries = before ++ during ++ after →
    contentsAfter before name = some value → (∀ entry ∈ during, entry.effect.Touches name = false) →
    gets.Sublist during → IsBlockwiseGet name 0 gets pieces → pieces.flatten = value

theorem Run.downloads_show (run : empty.Run entries shelf') : DownloadsShow entries := by
  rintro before during after name value gets pieces rfl holds untouched within blockwise
  obtain ⟨later, first, -⟩ := run_append.mp run
  obtain ⟨between, first, second⟩ := run_append.mp first
  have same : between.contents name = some value := (congrFun first.contents name).trans holds
  exact second.download same untouched within blockwise

end MapShelf

end GoldenGate.TestService
