import GoldenGate.Services.ShelfResponses

/-! # The requests of the shelf

Each kind of request is handled as by a map, where it does not run into what the handler misses: a piece that is not at
the start is not what is sent, an item may be deleted while it is being uploaded, a payload may end between the data of
an item and the end of its buffer, and the name of a new item may be too long, or there may be no memory for it.
-/

namespace GoldenGate.TestService

open Coap Memory BlockMap Keyed

/-- A request is handled as by the map that the shelf is. -/
def Refines (heap : Heap) (context : ShelfContext) (request : Content)
    (handled : Access (ShelfContext × ShelfResult)) : Prop :=
  ∃ context' result effect, handled = .ok (context', result) ∧ IsShelf context' ∧
    (mapOf context').contents = effect.apply (mapOf context).contents ∧
    (mapOf context).Handles heap request (outcomeOf result) effect (mapOf context').active

variable {heap : Heap} {context : ShelfContext} {item : ShelfItem} {request : Content} {name : List UInt8}

/-- A request that leaves the items as they are. -/
theorem Refines.kept (shelf : IsShelf context) (toResponseContext : ResponseContext) {result : ShelfResult}
    {handled : Access (ShelfContext × ShelfResult)} (goes : handled = .ok ({ context with toResponseContext }, result))
    (handles : (mapOf context).Handles heap request (outcomeOf result) .kept (mapOf context).active) :
    Refines heap context request handled :=
  ⟨_, _, .kept, goes, shelf.responding toResponseContext, rfl, handles⟩

/-! ## Reading -/

theorem any_more (block : BlockInfo) :
    (if block.more || block.offset ≠ 0 then some block else none).any BlockInfo.more = block.more := by
  cases more : block.more with
  | true => simp [more]
  | false =>
      split
      · simp [more]
      · rfl

/-- What a GET of an item sends is the piece that it asks for, if the value begins with that piece. -/
theorem onGet_refines (shelf : IsShelf context) (reset : context.responseOptions = [])
    (named : shelfName request = .ok (some name)) (isGet : request.code = methodGet)
    (first : ∀ item, findShelfItemWithName context name = some item →
      ∀ shown more, piece request item.payloadBuffer.value = .answered shown more → shown <+: item.payloadBuffer.value) :
    Refines heap context request (onGet request name context) := by
  cases found : findShelfItemWithName context name with
  | none =>
      refine .kept shelf context.toResponseContext (by simp only [onGet, found]; rfl) ?_
      exact .missing named (.inl isGet) (of_notFound found)
  | some item =>
      have isFirst := first item found
      clear first
      obtain ⟨member, rfl⟩ := of_found found
      have own := shelf.own item member
      have length := own.length_value
      have handles := @MapShelf.Handles.get heap _ request _ _ named isGet (shelf.contents member)
      by_cases empty : item.payloadBuffer.dataSize = 0
      · obtain ⟨response, responds, outcome⟩ := @respond_done { context with responseCode := codeContent }
          (by simp [reset]) (by simp [reset]) item.payloadBuffer.getData none
        have isPiece : piece request item.payloadBuffer.value = outcomeOf (.ok response) := by
          rw [outcome, piece, if_pos (List.length_eq_zero_iff.mp (length.trans empty))]
        rw [isPiece] at handles
        refine .kept shelf { context.toResponseContext with responseCode := codeContent } ?_ handles
        simp only [onGet, found, DynamicBuffer.getDataSize, if_pos empty, responds]
      · have some_ : item.payloadBuffer.value ≠ [] := by
          intro none_
          rw [none_, List.length_nil] at length
          exact empty length.symm
        have processes := processBlock2Option_piece request some_
        rw [length] at processes
        obtain ⟨code, fails, isPiece⟩ | ⟨block, chunkSize, goes, ends, isSize, isPiece⟩ := processes
        · rw [isPiece] at handles
          refine @Refines.kept _ _ _ shelf { context.toResponseContext with responseCode := codeContent }
            (.error (.code code)) _ ?_ handles
          simp only [onGet, found, DynamicBuffer.getDataSize, if_neg empty, fails]
        · have fits := own.fits
          have notNull : item.payloadBuffer.buffer ≠ [] := by
            intro null
            rw [null, List.length_nil] at fits
            omega
          obtain ⟨response, responds, outcome⟩ := @respond_piece { context with responseCode := codeContent } reset
            item.payloadBuffer.buffer chunkSize (by omega)
            (if block.more || block.offset ≠ 0 then some block else none) (by
              intro sent isSent
              split at isSent
              · cases isSent
                exact isSize
              · cases isSent)
          have same : item.payloadBuffer.buffer.take chunkSize =
              (item.payloadBuffer.value.drop block.offset).take chunkSize := by
            have begins := List.prefix_iff_eq_take.mp (isFirst _ _ isPiece)
            rw [begins, List.length_take_of_le (by rw [List.length_drop, length]; omega), DynamicBuffer.value,
              List.take_take, Nat.min_eq_left (by omega)]
          rw [any_more, same, ← isPiece] at outcome
          rw [← outcome] at handles
          refine .kept shelf { context.toResponseContext with responseCode := codeContent } ?_ handles
          simp only [onGet, found, DynamicBuffer.getDataSize, if_neg empty, goes, DynamicBuffer.getData, if_neg notNull,
            responds]

/-- A GET of all names sends pieces of them. -/
theorem onList_refines (heap : Heap) (shelf : IsShelf context) (reset : context.responseOptions = [])
    (unnamed_ : shelfName request = .ok none) (isGet : request.code = methodGet) :
    Refines heap context request (onList heap request context) := by
  obtain ⟨fails, short⟩ | ⟨names, lists, written⟩ := getShelfItemNamesCsv_gives heap context
  · refine .kept shelf context.toResponseContext (by simp only [onList, fails, ok_bind]; rfl) ?_
    exact .noMemory unnamed_ (by rw [isGet]; decide) short
  · have handles : (mapOf context).Handles heap request (piece request (csv context.shelfList)) .kept
        (mapOf context).active := by
      refine .list unnamed_ isGet shelf.names ?_
      intro name
      have absent := @lookup_eq_none _ _ _ _ ShelfItem.name (fun item => item.payloadBuffer.value) context.shelfList name
      have isContents : (mapOf context).contents name =
        lookup ShelfItem.name (fun item => item.payloadBuffer.value) context.shelfList name := rfl
      rw [isContents, Ne, absent]
      simp
    by_cases empty : (csv context.shelfList).length = 0
    · obtain ⟨response, responds, outcome⟩ := @respond_done { context with responseCode := codeContent }
        (by simp [reset]) (by simp [reset]) names none
      have isPiece : piece request (csv context.shelfList) = outcomeOf (.ok response) := by
        rw [outcome, piece, if_pos (List.length_eq_zero_iff.mp empty)]
      rw [isPiece] at handles
      refine .kept shelf { context.toResponseContext with responseCode := codeContent } ?_ handles
      simp only [onList, lists, ok_bind, if_pos empty, responds]
    · have some_ : csv context.shelfList ≠ [] := fun none_ => empty (by rw [none_]; rfl)
      obtain ⟨rest, rfl⟩ := written some_
      obtain ⟨code, fails, isPiece⟩ | ⟨block, chunkSize, goes, ends, isSize, isPiece⟩ :=
        processBlock2Option_piece request some_
      · rw [isPiece] at handles
        refine @Refines.kept _ _ _ shelf { context.toResponseContext with responseCode := codeContent }
          (.error (.code code)) _ ?_ handles
        simp only [onList, lists, ok_bind, if_neg empty, fails]
      · have offset : (if block.more || block.offset ≠ 0 then block.offset else 0) = block.offset := by
          split
          case isTrue => rfl
          case isFalse notBlock => simp_all
        have inside : ¬block.offset + chunkSize > (csv context.shelfList).length := by omega
        obtain ⟨response, responds, outcome⟩ := @respond_piece { context with responseCode := codeContent } reset
          ((csv context.shelfList ++ rest).drop block.offset) chunkSize
          (by rw [List.length_drop, List.length_append]; omega)
          (if block.more || block.offset ≠ 0 then some block else none) (by
            intro sent isSent
            split at isSent
            · cases isSent
              exact isSize
            · cases isSent)
        have same : ((csv context.shelfList ++ rest).drop block.offset).take chunkSize =
            ((csv context.shelfList).drop block.offset).take chunkSize := by
          rw [List.drop_append_of_le_length (by omega), List.take_append_of_le_length (by rw [List.length_drop]; omega)]
        rw [any_more, same, ← isPiece] at outcome
        rw [← outcome] at handles
        refine .kept shelf { context.toResponseContext with responseCode := codeContent } ?_ handles
        simp only [onList, lists, ok_bind, if_neg empty, goes, offset, if_neg inside, Option.map_some, responds]

/-! ## Deleting -/

/-- An item is deleted, if it is not the one that is being uploaded. -/
theorem onDelete_refines (heap : Heap) (shelf : IsShelf context) (reset : context.responseOptions = [])
    (named : shelfName request = .ok (some name)) (isDelete : request.code = methodDelete)
    (inactive : ∀ item, findShelfItemWithName context name = some item →
      context.activeUnnamedShelfItem ≠ some item.address) :
    Refines heap context request (onDelete name context) := by
  cases found : findShelfItemWithName context name with
  | none =>
      refine .kept shelf context.toResponseContext (by simp only [onDelete, found]; rfl) ?_
      exact .missing named (.inr isDelete) (of_notFound found)
  | some item =>
      have isInactive := inactive item found
      clear inactive
      obtain ⟨member, rfl⟩ := of_found found
      obtain ⟨response, responds, outcome⟩ := @respond_done
        { deleteShelfItem context item.address with responseCode := codeDeleted }
        (by simp [deleteShelfItem, reset]) (by simp [deleteShelfItem, reset]) none none
      obtain ⟨active, other⟩ := active_deleted shelf member isInactive
      have handles := @MapShelf.Handles.delete heap _ request _ _ named isDelete (shelf.contents member)
      rw [if_neg other, ← active, ← outcome] at handles
      refine ⟨{ deleteShelfItem context item.address with responseCode := codeDeleted }, .ok response, _, ?_,
        (shelf.deleted isInactive).responding _, contents_deleted shelf member, handles⟩
      simp only [onDelete, found]
      exact responds

theorem onDeleteAll_refines (heap : Heap) (reset : context.responseOptions = [])
    (unnamed_ : shelfName request = .ok none) (isDelete : request.code = methodDelete)
    (inactive : context.activeUnnamedShelfItem = none) :
    Refines heap context request (onDeleteAll context) := by
  obtain ⟨response, responds, outcome⟩ := @respond_done { context with responseCode := codeDeleted, shelfList := [] }
    (by simp [reset]) (by simp [reset]) none none
  have handles := @MapShelf.Handles.deleteAll heap (mapOf context) request unnamed_ isDelete
  rw [← outcome] at handles
  refine ⟨{ context with responseCode := codeDeleted, shelfList := [] }, .ok response, .cleared, ?_, ?_, rfl, ?_⟩
  · simp only [onDeleteAll, deleteAll_eq, responds]
  · exact ⟨List.nodup_nil, List.nodup_nil, nofun, nofun, nofun, fun address is => nomatch inactive.symm.trans is⟩
  · have none_ : (mapOf { context with responseCode := codeDeleted, shelfList := [] }).active = none := by
      simp only [mapOf, inactive, Option.bind_none]
    rw [none_]
    exact handles

/-! ## Writing -/

/-- An item that has just been created holds any payload. -/
theorem fitsInto_new (request : Content) : FitsInto request ⟨true, [], 0⟩ := by
  simp only [FitsInto, List.length_nil]
  omega

/-- An effect on a name says that the name has a value. -/
theorem MapShelf.Writes.ensured {value : List UInt8} {outcome : Outcome} {effect : Effect (List UInt8) UInt8}
    (writes : MapShelf.Writes heap request name value outcome effect) (contents : List UInt8 → Option (List UInt8)) :
    effect.apply ((Effect.ensured name).apply contents) = effect.apply contents := by
  cases writes with
  | behind | noMemory => exact Effect.ensured_ensured contents name
  | written => exact Effect.ensured_wrote contents name _ _

/-- The rest of a PUT writes into the item. -/
theorem putTo_gives (heap : Heap) (shelf : IsShelf context) (reset : context.responseOptions = [])
    (member : item ∈ context.shelfList) (fits : FitsInto request item.payloadBuffer) :
    ∃ context' result effect, putTo heap request context item.address = .ok (context', result) ∧ IsShelf context' ∧
      (mapOf context').contents = effect.apply (mapOf context).contents ∧
      (mapOf context').active = (mapOf context).active ∧
      MapShelf.Writes heap request item.name item.payloadBuffer.value (outcomeOf result) effect := by
  obtain ⟨context', result, outcome, effect, shelves⟩ := shelve_gives heap shelf member fits
  have handled := shelves.handled
  have writes := shelves.writes
  cases shelves.uploads with
  | @refused code =>
      refine ⟨context', .error (.code code), effect, ?_, shelves.shelf, shelves.contents, shelves.active, writes⟩
      simp only [putTo, handled, ok_bind]
  | @written block1Info =>
      have reset' : context'.responseOptions = [] := (congrArg ResponseContext.responseOptions shelves.response).trans reset
      obtain ⟨response, responds, outcome⟩ := @respond_done context' (by simp [reset']) (by simp [reset']) none block1Info
      rw [← outcome] at writes
      refine ⟨context', .ok response, effect, ?_, shelves.shelf, shelves.contents, shelves.active, writes⟩
      simp only [putTo, handled, ok_bind, responds]

/-- The location of the item that is being uploaded goes into the response. -/
theorem addShelfUriResponseOption_ok (shelf : IsShelf context) (reset : context.responseOptions = []) {address : Nat}
    (active : context.activeUnnamedShelfItem = some address) :
    ∃ value, addShelfUriResponseOption context =
      .ok { context with responseOptions := [⟨optionLocationPath, value⟩] } := by
  obtain ⟨item, member, rfl⟩ := shelf.active address active
  refine ⟨.string (some item.name) item.name.length, ?_⟩
  simp only [addShelfUriResponseOption, active, shelf.itemAt member, ok_bind, if_pos (shelf.short item member), reset,
    addResponseOption_room (by decide : ([] : List MessageOption).length < 4), List.nil_append]

/-- The item that is being uploaded may be another one, or none. -/
theorem IsShelf.activated (shelf : IsShelf context) {activeUnnamedShelfItem : Option Nat}
    (active : ∀ address, activeUnnamedShelfItem = some address → ∃ item ∈ context.shelfList, item.address = address)
    (toResponseContext : ResponseContext) : IsShelf { context with toResponseContext, activeUnnamedShelfItem } :=
  ⟨shelf.names, shelf.addresses, shelf.older, shelf.short, shelf.own, active⟩

/-- The rest of a POST writes into the item that is being uploaded, which it goes on being unless this was the end. -/
theorem postTo_gives (heap : Heap) (shelf : IsShelf context) (reset : context.responseOptions = [])
    (member : item ∈ context.shelfList) (active : context.activeUnnamedShelfItem = some item.address)
    (fits : FitsInto request item.payloadBuffer) :
    ∃ context' result effect, postTo heap request context item.address = .ok (context', result) ∧ IsShelf context' ∧
      (mapOf context').contents = effect.apply (mapOf context).contents ∧
      MapShelf.StaysActive request item.name (outcomeOf result) (mapOf context').active ∧
      MapShelf.Writes heap request item.name item.payloadBuffer.value (outcomeOf result) effect := by
  obtain ⟨context', result, outcome, effect, shelves⟩ := shelve_gives heap shelf member fits
  have handled := shelves.handled
  have writes := shelves.writes
  have stays : (mapOf context').active = some item.name := shelves.active.trans (shelf.active_name member active)
  cases shelves.uploads with
  | @refused code =>
      refine ⟨context', .error (.code code), effect, ?_, shelves.shelf, shelves.contents, ?_, writes⟩
      · simp only [postTo, handled, ok_bind]
      · rw [stays]
        exact .refused
  | @written block1Info last =>
      have reset' : context'.responseOptions = [] := (congrArg ResponseContext.responseOptions shelves.response).trans reset
      by_cases ends : EndsUpload request
      · obtain ⟨value, adds⟩ := addShelfUriResponseOption_ok shelves.shelf reset' (shelves.pointer.trans active)
        have distinct : optionLocationPath ≠ optionBlock2 := by decide
        obtain ⟨response, responds, outcome⟩ := @respond_done
          { context' with responseOptions := [⟨optionLocationPath, value⟩], activeUnnamedShelfItem := none }
          (by simp) (by simpa using distinct) none block1Info
        rw [← outcome] at writes
        refine ⟨{ context' with responseOptions := [⟨optionLocationPath, value⟩], activeUnnamedShelfItem := none },
          .ok response, effect, ?_, @IsShelf.activated _ shelves.shelf none nofun _, shelves.contents, ?_, writes⟩
        · simp only [postTo, handled, ok_bind, last.mpr ends, adds, if_true]
          exact responds
        · rw [outcome]
          exact .ends ends
      · obtain ⟨response, responds, outcome⟩ := @respond_done context' (by simp [reset']) (by simp [reset']) none
          block1Info
        rw [← outcome] at writes
        refine ⟨context', .ok response, effect, ?_, shelves.shelf, shelves.contents, ?_, writes⟩
        · simp only [postTo, handled, ok_bind, if_neg fun isLast => ends (last.mp isLast), responds]
        · rw [outcome, stays]
          exact .more ends

/-- A PUT writes into the item of its name, and creates it if it is not there. -/
theorem onPut_refines (heap : Heap) (shelf : IsShelf context) (reset : context.responseOptions = [])
    (named : shelfName request = .ok (some name)) (isPut : request.code = methodPut)
    (create : findShelfItemWithName context name = none → name.length ≤ maxShelfNameLength ∧
      heap.allocate shelfItemSize ≠ none ∧ heap.allocate DynamicBuffer.structSize ≠ none)
    (fits : ∀ item, findShelfItemWithName context name = some item → FitsInto request item.payloadBuffer) :
    Refines heap context request (onPut heap request name context) := by
  cases found : findShelfItemWithName context name with
  | some item =>
      have itFits := fits item found
      clear create fits
      obtain ⟨member, rfl⟩ := of_found found
      have holds := shelf.contents member
      obtain ⟨context', result, effect, goes, shelf', contents, active, writes⟩ := putTo_gives heap
        (shelf.responding { context.toResponseContext with responseCode := codeChanged }) reset member itFits
      refine ⟨context', result, effect, by simp only [onPut, found]; exact goes, shelf', contents, ?_⟩
      rw [active]
      refine .put named isPut (fun none_ => nomatch holds.symm.trans none_) ?_
      rw [holds]
      exact writes
  | none =>
      obtain ⟨short, room, room'⟩ := create found
      have absent := of_notFound found
      obtain ⟨base, isBase⟩ : ∃ base, base = { context with responseCode := codeCreated } := ⟨_, rfl⟩
      have shelf' : IsShelf base := isBase ▸ shelf.responding _
      have reset' : base.responseOptions = [] := isBase ▸ reset
      have notFound : findShelfItemWithName base name = none := isBase ▸ found
      have same : mapOf base = mapOf context := isBase ▸ rfl
      obtain ⟨code, -, noRoom | noRoom⟩ | creates := create_gives heap base short
      · exact absurd noRoom room
      · exact absurd noRoom room'
      · have there : ⟨base.nextAddress, name, ⟨true, [], 0⟩⟩ ∈ (added base name).shelfList :=
          List.mem_append_right _ (List.mem_singleton_self _)
        obtain ⟨context', result, effect, goes, shelf'', contents, active, writes⟩ :=
          putTo_gives heap (shelf'.added notFound short) reset' there (fitsInto_new request)
        rw [contents_added notFound, writes.ensured, same] at contents
        refine ⟨context', result, effect, ?_, shelf'', contents, ?_⟩
        · rw [isBase] at creates goes
          simp only [onPut, found, creates]
          exact goes
        · rw [active, active_added shelf', same]
          refine .put named isPut (fun _ => short) ?_
          rw [absent]
          exact writes

/-- There is a name that an unnamed item can have. -/
def HasUnusedName (context : ShelfContext) : Prop :=
  ∃ index, index + 1 < 2 ^ 31 ∧ findShelfItemWithName context (unnamed index) = none

theorem getUniqueShelfItemName_gives {fuel index : Nat}
    (unused : ∃ index', index ≤ index' ∧ index' + 1 < 2 ^ 31 ∧ findShelfItemWithName context (unnamed index') = none)
    (enough : 2 ^ 31 ≤ index + fuel) :
    ∃ name, getUniqueShelfItemName context fuel index = .ok name ∧ findShelfItemWithName context name = none ∧
      name.length ≤ maxShelfNameLength := by
  induction fuel generalizing index with
  | zero =>
      obtain ⟨index', later, small, -⟩ := unused
      omega
  | succ fuel ih =>
      obtain ⟨index', later, small, unused⟩ := unused
      have inside : ¬index + 1 = 2 ^ 31 := by omega
      rw [getUniqueShelfItemName, if_neg inside]
      cases found : findShelfItemWithName context (unnamed index) with
      | none =>
          refine ⟨unnamed index, rfl, found, ?_⟩
          simp only [unnamed, List.length_take, maxShelfNameLength]
          omega
      | some item =>
          have other : index ≠ index' := by
            rintro rfl
            rw [found] at unused
            cases unused
          exact ih ⟨index', by omega, small, unused⟩ (by omega)

/-- A POST writes into the item that is being uploaded, or into a new one. -/
theorem onPost_refines (heap : Heap) (shelf : IsShelf context) (reset : context.responseOptions = [])
    (unnamed_ : shelfName request = .ok none) (isPost : request.code = methodPost)
    (create : context.activeUnnamedShelfItem = none → HasUnusedName context)
    (fits : ∀ item ∈ context.shelfList, context.activeUnnamedShelfItem = some item.address →
      FitsInto request item.payloadBuffer) :
    Refines heap context request (onPost heap request context) := by
  cases active : context.activeUnnamedShelfItem with
  | some address =>
      obtain ⟨item, member, rfl⟩ := shelf.active address active
      obtain ⟨context', result, effect, goes, shelf', contents, stays, writes⟩ :=
        postTo_gives heap shelf reset member active (fits item member active)
      refine ⟨context', result, effect, by simp only [onPost, active, goes], shelf', contents, ?_⟩
      refine .post unnamed_ isPost (.inl (shelf.active_name member active)) ?_ stays
      rw [shelf.contents member]
      exact writes
  | none =>
      obtain ⟨index, small, unused⟩ := create active
      obtain ⟨name, isUnique, notFound, short⟩ := @getUniqueShelfItemName_gives context (2 ^ 31) 0
        ⟨index, Nat.zero_le _, small, unused⟩ (Nat.le_add_left _ _)
      have absent := of_notFound notFound
      obtain ⟨code, fails, noRoom⟩ | creates := create_gives heap context short
      · have goes : onPost heap request context = .ok (context, .error (.code codeInternalServerError)) := by
          simp only [onPost, active, createUnnamedShelfItem, isUnique, fails, ok_bind]
        refine .kept shelf context.toResponseContext goes (.noMemory unnamed_ (by rw [isPost]; decide) ?_)
        cases noRoom with
        | inl noRoom => exact ⟨_, noRoom⟩
        | inr noRoom => exact ⟨_, noRoom⟩
      · have there : ⟨context.nextAddress, name, ⟨true, [], 0⟩⟩ ∈ (added context name).shelfList :=
          List.mem_append_right _ (List.mem_singleton_self _)
        obtain ⟨context', result, effect, goes, shelf', contents, stays, writes⟩ := @postTo_gives
          { added context name with activeUnnamedShelfItem := some context.nextAddress, responseCode := codeCreated }
          ⟨context.nextAddress, name, ⟨true, [], 0⟩⟩ request heap
          ((shelf.added notFound short).activated (fun address is => ⟨_, there, Option.some.inj is⟩) _) reset there rfl
          (fitsInto_new request)
        have before : (mapOf { added context name with
            activeUnnamedShelfItem := some context.nextAddress, responseCode := codeCreated }).contents =
          (mapOf (added context name)).contents := rfl
        rw [before, contents_added notFound, writes.ensured] at contents
        refine ⟨context', result, effect, ?_, shelf', contents, ?_⟩
        · simp only [onPost, active, createUnnamedShelfItem, isUnique, creates, ok_bind]
          exact goes
        · refine .post unnamed_ isPost (.inr ⟨?_, absent, short⟩) ?_ stays
          · simp only [mapOf, active, Option.bind_none]
          · rw [absent]
            exact writes

end GoldenGate.TestService
