import GoldenGate.Lib.Keyed
import GoldenGate.Services.ShelfMap

/-! # The items of the shelf

The map that the items make up, and what the operations on the items do to it. An item is written in place where its
data are long enough, and in a new buffer where the old one is too small; in between, the size of the data is not set.
-/

namespace GoldenGate.TestService

open Coap Memory BlockMap Keyed

/-- The values that items have under their names. -/
def contentsOf : List ShelfItem → List UInt8 → Option (List UInt8) :=
  lookup ShelfItem.name fun item => item.payloadBuffer.value

/-- The names that items have at their addresses. -/
def nameAt : List ShelfItem → Nat → Option (List UInt8) := lookup ShelfItem.address ShelfItem.name

/-- The map that the shelf is. -/
def mapOf (context : ShelfContext) : MapShelf :=
  ⟨contentsOf context.shelfList, context.activeUnnamedShelfItem.bind (nameAt context.shelfList)⟩

/-- A name occurs once, and the item that is being uploaded is on the shelf. -/
structure IsShelf (context : ShelfContext) : Prop where
  names : (context.shelfList.map ShelfItem.name).Nodup
  addresses : (context.shelfList.map ShelfItem.address).Nodup
  older : ∀ item ∈ context.shelfList, item.address < context.nextAddress
  short : ∀ item ∈ context.shelfList, item.name.length ≤ maxShelfNameLength
  own : ∀ item ∈ context.shelfList, item.payloadBuffer.IsOwn
  active : ∀ address, context.activeUnnamedShelfItem = some address → ∃ item ∈ context.shelfList, item.address = address

variable {heap : Heap} {context : ShelfContext} {item : ShelfItem}

/-- What a response is made of does not matter. -/
theorem IsShelf.responding (shelf : IsShelf context) (toResponseContext : ResponseContext) :
    IsShelf { context with toResponseContext } :=
  ⟨shelf.names, shelf.addresses, shelf.older, shelf.short, shelf.own, shelf.active⟩

theorem IsShelf.itemAt (shelf : IsShelf context) (member : item ∈ context.shelfList) :
    context.item item.address = .ok item := by
  simp only [ShelfContext.item, find?_of_mem shelf.addresses member]

theorem IsShelf.contents (shelf : IsShelf context) (member : item ∈ context.shelfList) :
    (mapOf context).contents item.name = some item.payloadBuffer.value :=
  lookup_of_mem _ shelf.names member

theorem IsShelf.nameAt (shelf : IsShelf context) (member : item ∈ context.shelfList) :
    nameAt context.shelfList item.address = some item.name :=
  lookup_of_mem _ shelf.addresses member

/-- The item that is being uploaded has the name that the map tells. -/
theorem IsShelf.active_name (shelf : IsShelf context) (member : item ∈ context.shelfList)
    (active : context.activeUnnamedShelfItem = some item.address) : (mapOf context).active = some item.name := by
  rw [mapOf, active, Option.bind_some, shelf.nameAt member]

theorem of_found {name : List UInt8} (found : findShelfItemWithName context name = some item) :
    item ∈ context.shelfList ∧ item.name = name :=
  ⟨List.mem_of_find?_eq_some found, by simpa using List.find?_some found⟩

theorem of_notFound {name : List UInt8} (notFound : findShelfItemWithName context name = none) :
    (mapOf context).contents name = none := by
  have holds := congrArg (Option.map fun item => item.payloadBuffer.value) notFound
  exact holds

/-! ## Adding and removing -/

/-- The shelf with a new empty item. -/
def added (context : ShelfContext) (name : List UInt8) : ShelfContext :=
  { context with
    shelfList := context.shelfList ++ [⟨context.nextAddress, name, ⟨true, [], 0⟩⟩]
    nextAddress := context.nextAddress + 1 }

theorem create_gives (heap : Heap) (context : ShelfContext) {name : List UInt8}
    (short : name.length ≤ maxShelfNameLength) :
    (∃ code, createShelfItem heap context name = .error code ∧
      (heap.allocate shelfItemSize = none ∨ heap.allocate DynamicBuffer.structSize = none)) ∨
    createShelfItem heap context name = .ok (added context name, context.nextAddress) := by
  have notLong := Nat.not_lt.mpr short
  cases room : heap.allocate shelfItemSize with
  | none =>
      refine .inl ⟨codeRequestEntityTooLarge, ?_, .inl rfl⟩
      simp only [createShelfItem, if_neg notLong, room]
  | some _ =>
      cases DynamicBuffer.create_zero heap with
      | inl fails =>
          refine .inl ⟨codeRequestEntityTooLarge, ?_, .inr fails.2⟩
          simp only [createShelfItem, if_neg notLong, room, fails.1]
      | inr goes =>
          refine .inr ?_
          simp only [createShelfItem, if_neg notLong, room, goes.1]
          rfl

theorem IsShelf.added (shelf : IsShelf context) {name : List UInt8}
    (notFound : findShelfItemWithName context name = none) (short : name.length ≤ maxShelfNameLength) :
    IsShelf (added context name) := by
  have absent : contentsOf context.shelfList name = none := of_notFound notFound
  have newName := (lookup_eq_none _).mp absent
  obtain ⟨names, addresses, older, shorts, own, active⟩ := shelf
  constructor
  · simp only [TestService.added, List.map_append, List.nodup_append]
    grind
  · simp only [TestService.added, List.map_append, List.nodup_append]
    grind
  · simp only [TestService.added]
    grind
  · simp only [TestService.added]
    grind
  · intro item member
    cases List.mem_append.mp member with
    | inl member => exact own item member
    | inr member =>
        cases List.mem_singleton.mp member
        exact ⟨rfl, Nat.le_refl 0⟩
  · intro address is
    obtain ⟨item, member, same⟩ := active address is
    exact ⟨item, List.mem_append_left _ member, same⟩

/-- A new item has an empty value. -/
theorem contents_added {name : List UInt8} (notFound : findShelfItemWithName context name = none) :
    (mapOf (added context name)).contents =
      (Effect.ensured name : Effect (List UInt8) UInt8).apply (mapOf context).contents := by
  have absent := of_notFound notFound
  rw [Effect.apply, absent]
  exact @lookup_append _ _ _ _ ShelfItem.name _ context.shelfList ⟨context.nextAddress, name, ⟨true, [], 0⟩⟩ absent

theorem active_added (shelf : IsShelf context) (name : List UInt8) :
    (mapOf (added context name)).active = (mapOf context).active := by
  cases active : context.activeUnnamedShelfItem with
  | none => simp only [mapOf, added, active, Option.bind_none]
  | some address =>
      obtain ⟨item, member, rfl⟩ := shelf.active address active
      have newAddress : nameAt context.shelfList context.nextAddress = none := by
        rw [nameAt, lookup_eq_none]
        intro other member' same
        have older := shelf.older other member'
        omega
      have update := @lookup_append _ _ _ _ ShelfItem.address ShelfItem.name context.shelfList
        ⟨context.nextAddress, name, ⟨true, [], 0⟩⟩ newAddress
      have other := Nat.ne_of_lt (shelf.older item member)
      simp only [mapOf, added, active, Option.bind_some, nameAt, update, Function.update_of_ne other]

/-- An item is known by its address. -/
theorem IsShelf.address_iff (shelf : IsShelf context) (member : item ∈ context.shelfList) :
    ∀ other ∈ context.shelfList, other.address = item.address ↔ other = item := by
  intro other member'
  constructor
  · exact eq_of_key shelf.addresses member' member
  · rintro rfl
    rfl

theorem IsShelf.deleted (shelf : IsShelf context) (inactive : context.activeUnnamedShelfItem ≠ some item.address) :
    IsShelf (deleteShelfItem context item.address) := by
  have sublist : (deleteShelfItem context item.address).shelfList.Sublist context.shelfList := List.filter_sublist
  constructor
  · exact shelf.names.sublist (sublist.map _)
  · exact shelf.addresses.sublist (sublist.map _)
  · exact fun other member => shelf.older other (sublist.subset member)
  · exact fun other member => shelf.short other (sublist.subset member)
  · exact fun other member => shelf.own other (sublist.subset member)
  · intro address is
    obtain ⟨other, member, rfl⟩ := shelf.active address is
    have stays : other.address ≠ item.address := fun same => inactive (same ▸ is)
    exact ⟨other, List.mem_filter.mpr ⟨member, decide_eq_true stays⟩, rfl⟩

theorem contents_deleted (shelf : IsShelf context) (member : item ∈ context.shelfList) :
    (mapOf (deleteShelfItem context item.address)).contents =
      (Effect.removed item.name : Effect (List UInt8) UInt8).apply (mapOf context).contents := by
  apply lookup_remove _ shelf.names member
  intro other member'
  rw [not_not]
  exact shelf.address_iff member other member'

/-- Another item than the one that is deleted goes on being uploaded. -/
theorem active_deleted (shelf : IsShelf context) (member : item ∈ context.shelfList)
    (inactive : context.activeUnnamedShelfItem ≠ some item.address) :
    (mapOf (deleteShelfItem context item.address)).active = (mapOf context).active ∧
      (mapOf context).active ≠ some item.name := by
  cases active : context.activeUnnamedShelfItem with
  | none => simp [mapOf, deleteShelfItem, active]
  | some address =>
      obtain ⟨other, member', rfl⟩ := shelf.active address active
      have apart : other.address ≠ item.address := fun same => inactive (same ▸ active)
      have remaining := (shelf.deleted inactive).active_name (List.mem_filter.mpr ⟨member', decide_eq_true apart⟩) active
      rw [remaining, shelf.active_name member' active]
      refine ⟨rfl, fun same => apart ?_⟩
      rw [eq_of_key shelf.names member' member (Option.some.inj same)]

theorem deleteAll_eq (context : ShelfContext) : deleteAllShelfItems context = { context with shelfList := [] } := by
  have removes (addresses : List Nat) (context : ShelfContext) : addresses.foldl deleteShelfItem context =
      { context with shelfList := context.shelfList.filter (·.address ∉ addresses) } := by
    induction addresses generalizing context with
    | nil => simp
    | cons address addresses ih =>
        rw [List.foldl_cons, ih]
        simp only [deleteShelfItem, List.filter_filter, List.mem_cons, not_or, Bool.decide_and, Bool.and_comm]
  have none_ : context.shelfList.filter (·.address ∉ context.shelfList.map (·.address)) = [] := by
    rw [List.filter_eq_nil_iff]
    intro item member
    simp only [decide_eq_true_eq, not_not]
    exact List.mem_map_of_mem member
  rw [deleteAllShelfItems, removes, none_]

/-! ## Writing -/

theorem IsShelf.setBuffer (shelf : IsShelf context) (member : item ∈ context.shelfList) {payloadBuffer : DynamicBuffer}
    (own : payloadBuffer.IsOwn) : IsShelf (context.setBuffer item.address payloadBuffer) := by
  have only := shelf.address_iff member
  let change (item : ShelfItem) : ShelfItem := { item with payloadBuffer }
  have names := @map_key_change _ _ ShelfItem.name _ item _ _ only change rfl
  have addresses := @map_key_change _ _ ShelfItem.address _ item _ _ only change rfl
  have each {changed : ShelfItem} (member : changed ∈ (context.setBuffer item.address payloadBuffer).shelfList) :
      ∃ old ∈ context.shelfList, old.address = changed.address ∧ old.name = changed.name ∧
        (changed.payloadBuffer = payloadBuffer ∨ changed = old) := by
    obtain ⟨old, old_, rfl⟩ := List.mem_map.mp member
    refine ⟨old, old_, ?_⟩
    split
    case isTrue => exact ⟨rfl, rfl, .inl rfl⟩
    case isFalse => exact ⟨rfl, rfl, .inr rfl⟩
  constructor
  · exact names.symm ▸ shelf.names
  · exact addresses.symm ▸ shelf.addresses
  · intro changed member
    obtain ⟨old, member, same, -⟩ := each member
    exact same ▸ shelf.older old member
  · intro changed member
    obtain ⟨old, member, -, same, -⟩ := each member
    exact same ▸ shelf.short old member
  · intro changed member
    obtain ⟨old, member, -, -, same | same⟩ := each member
    · exact same ▸ own
    · exact same ▸ shelf.own old member
  · intro address is
    obtain ⟨old, member, same⟩ := shelf.active address is
    refine ⟨_, List.mem_map_of_mem member, ?_⟩
    split
    case isTrue => exact same
    case isFalse => exact same

theorem contents_setBuffer (shelf : IsShelf context) (member : item ∈ context.shelfList)
    (payloadBuffer : DynamicBuffer) :
    (mapOf (context.setBuffer item.address payloadBuffer)).contents =
      Function.update (mapOf context).contents item.name (some payloadBuffer.value) :=
  @lookup_change _ _ _ _ ShelfItem.name _ _ shelf.names item member _ _ (shelf.address_iff member)
    (fun item => { item with payloadBuffer }) rfl

theorem active_setBuffer (shelf : IsShelf context) (member : item ∈ context.shelfList)
    (payloadBuffer : DynamicBuffer) :
    (mapOf (context.setBuffer item.address payloadBuffer)).active = (mapOf context).active := by
  have update := @lookup_change _ _ _ _ ShelfItem.address ShelfItem.name _ shelf.addresses item member _ _
    (shelf.address_iff member) (fun item => { item with payloadBuffer }) rfl
  have same : Function.update (nameAt context.shelfList) item.address (some item.name) = nameAt context.shelfList := by
    rw [← shelf.nameAt member, Function.update_eq_self]
  exact congrArg (Option.bind context.activeUnnamedShelfItem) (update.trans same)

theorem setShelfItemData_gives (heap : Heap) {payloadBuffer : DynamicBuffer} (own : payloadBuffer.IsOwn)
    (request : Content) :
    (∃ code, setShelfItemData heap payloadBuffer request = .ok (.error code) ∧ heap.IsShort) ∨
      ∃ after, setShelfItemData heap payloadBuffer request = .ok (.ok after) ∧ after.IsOwn ∧
        after.value = request.payload := by
  obtain ⟨error, fails, short⟩ | ⟨after, goes, good⟩ := DynamicBuffer.setData_gives heap own request.payload
  · exact .inl ⟨codeRequestEntityTooLarge, by simp only [setShelfItemData, fails, ok_bind], short⟩
  · exact .inr ⟨after, by simp only [setShelfItemData, goes, ok_bind], good⟩

/-- Data that are written inside of what there is. -/
theorem putAtOffset_ok {payloadBuffer : DynamicBuffer} (own : payloadBuffer.IsOwn) {offset : Nat} {request : Content}
    (ends : offset + request.payload.length ≤ payloadBuffer.dataSize) :
    ∃ after, putAtOffset payloadBuffer offset request = .ok (.ok after) ∧ after.IsOwn ∧
      after.value = payloadBuffer.value.take offset ++ request.payload ++
        payloadBuffer.value.drop (offset + request.payload.length) := by
  have fits := own.fits
  have room : offset + request.payload.length ≤ payloadBuffer.buffer.length := Nat.le_trans ends fits
  refine ⟨{ payloadBuffer with
    buffer := payloadBuffer.buffer.take offset ++ request.payload ++
      payloadBuffer.buffer.drop (offset + request.payload.length) }, ?_, ⟨own.isLocal, ?_⟩, ?_⟩
  · simp only [putAtOffset, store, if_pos room, ok_bind]
  · simp only [List.length_append, List.length_take, List.length_drop]
    omega
  · have length : (payloadBuffer.buffer.take offset ++ request.payload).length = offset + request.payload.length := by
      rw [List.length_append, List.length_take_of_le (by omega)]
    have start : payloadBuffer.value.take offset = payloadBuffer.buffer.take offset := by
      rw [DynamicBuffer.value, List.take_take, Nat.min_eq_left (by omega)]
    rw [start, DynamicBuffer.value, DynamicBuffer.value, List.drop_take, List.take_append,
      List.take_of_length_le (by rw [length]; exact ends), length]

/-- Data that are written inside of what there is, or beyond the buffer, are written as they should be. -/
theorem setShelfItemDataAtOffset_gives (heap : Heap) {payloadBuffer : DynamicBuffer} (own : payloadBuffer.IsOwn)
    {offset : Nat} (some_ : offset ≠ 0) (begins : offset ≤ payloadBuffer.dataSize) {request : Content}
    (ends : offset + request.payload.length ≤ payloadBuffer.dataSize ∨
      payloadBuffer.buffer.length < offset + request.payload.length) :
    (∃ code, setShelfItemDataAtOffset heap payloadBuffer offset request = .ok (.error code) ∧ heap.IsShort) ∨
      ∃ after, setShelfItemDataAtOffset heap payloadBuffer offset request = .ok (.ok after) ∧ after.IsOwn ∧
        after.value = splice offset request.payload payloadBuffer.value := by
  have fits := own.fits
  by_cases grows : offset + request.payload.length > payloadBuffer.getBufferSize
  · obtain ⟨error, fails, short⟩ | ⟨larger, goes, own', length, size, same⟩ :=
      DynamicBuffer.setDataSize_gives heap own grows
    · refine .inl ⟨codeRequestEntityTooLarge, ?_, short⟩
      simp only [setShelfItemDataAtOffset, if_pos grows, fails, ok_bind]
    · obtain ⟨after, puts, own'', value⟩ := putAtOffset_ok own' (Nat.le_of_eq size.symm)
      refine .inr ⟨after, by simp only [setShelfItemDataAtOffset, if_pos grows, goes, ok_bind, puts], own'', ?_⟩
      have start : larger.value.take offset = payloadBuffer.value.take offset := by
        rw [← same, DynamicBuffer.value, List.take_take, List.take_take, size, Nat.min_eq_left (by omega),
          Nat.min_eq_left begins]
      have old : payloadBuffer.value.length ≤ offset + request.payload.length := by
        rw [own.length_value]
        exact Nat.le_trans fits (Nat.le_of_lt grows)
      have new : larger.value.length ≤ offset + request.payload.length := by
        rw [own'.length_value, size]
      rw [value, splice, if_neg some_, start, List.drop_eq_nil_of_le old, List.drop_eq_nil_of_le new]
  · have inside : offset + request.payload.length ≤ payloadBuffer.dataSize := by
      cases ends with
      | inl inside => exact inside
      | inr beyond => exact absurd beyond grows
    obtain ⟨after, puts, own', value⟩ := putAtOffset_ok own inside
    refine .inr ⟨after, by simp only [setShelfItemDataAtOffset, if_neg grows, puts], own', ?_⟩
    rw [value, splice, if_neg some_]

/-- The payload of a request replaces the data, is refused, or ends inside of the data or beyond the buffer. -/
def FitsInto (request : Content) (payloadBuffer : DynamicBuffer) : Prop :=
  blockOffset request = 0 ∨ payloadBuffer.dataSize < blockOffset request ∨
    blockOffset request + request.payload.length ≤ payloadBuffer.dataSize ∨
    payloadBuffer.buffer.length < blockOffset request + request.payload.length

/-- The block that goes into the response of an upload, and what the sender sees. -/
inductive Uploads (request : Content) : Except UInt8 (Option BlockInfo) → Outcome → Prop where
  | refused {code : UInt8} : Uploads request (.error code) .refused
  | written {block1Info : Option BlockInfo} : (isLastBlock block1Info = true ↔ EndsUpload request) →
      Uploads request (.ok block1Info) (.answered [] false)

/-- What comes of the attempt to set the data of an item. -/
def ShelfContext.shelved (context : ShelfContext) (address : Nat) (block1Info : Option BlockInfo) :
    Except UInt8 DynamicBuffer → Access (ShelfContext × Except UInt8 (Option BlockInfo))
  | .error code => .ok (context, .error code)
  | .ok payloadBuffer => .ok (context.setBuffer address payloadBuffer, .ok block1Info)

/-- A payload goes into an item as a block goes into a value. -/
structure Shelves (heap : Heap) (request : Content) (context : ShelfContext) (item : ShelfItem) (context' : ShelfContext)
    (result : Except UInt8 (Option BlockInfo)) (outcome : Outcome) (effect : Effect (List UInt8) UInt8) : Prop where
  handled : shelve heap request context item.address = .ok (context', result)
  shelf : IsShelf context'
  response : context'.toResponseContext = context.toResponseContext
  pointer : context'.activeUnnamedShelfItem = context.activeUnnamedShelfItem
  contents : (mapOf context').contents = effect.apply (mapOf context).contents
  active : (mapOf context').active = (mapOf context).active
  writes : MapShelf.Writes heap request item.name item.payloadBuffer.value outcome effect
  uploads : Uploads request result outcome

theorem shelve_gives (heap : Heap) (shelf : IsShelf context) (member : item ∈ context.shelfList) {request : Content}
    (fits : FitsInto request item.payloadBuffer) :
    ∃ context' result outcome effect, Shelves heap request context item context' result outcome effect := by
  have own := shelf.own item member
  have length := own.length_value
  have finds := shelf.itemAt member
  have present : (Effect.ensured item.name).apply (mapOf context).contents = (mapOf context).contents :=
    Effect.ensured_present (shelf.contents member)
  obtain ⟨block1Info, handled, last⟩ : ∃ block1Info,
      (shelve heap request context item.address =
        if blockOffset request > item.payloadBuffer.dataSize then .ok (context, .error codeBadOption)
        else do
          let result ← (if blockOffset request = 0 then setShelfItemData heap item.payloadBuffer request
            else setShelfItemDataAtOffset heap item.payloadBuffer (blockOffset request) request :
              Access (Except UInt8 DynamicBuffer))
          context.shelved item.address block1Info result) ∧
      (isLastBlock block1Info = true ↔ EndsUpload request) := by
    cases block1 : getBlockInfo request.options optionBlock1 0 with
    | error error =>
        refine ⟨none, ?_, ?_⟩
        · simp only [shelve, finds, ok_bind, block1, blockOffset]
          rfl
        · simp [isLastBlock, EndsUpload, block1]
    | ok block1Info =>
        refine ⟨some block1Info, ?_, ?_⟩
        · simp only [shelve, finds, ok_bind, block1, blockOffset]
          rfl
        · simp [isLastBlock, EndsUpload, block1]
  by_cases behind : blockOffset request > item.payloadBuffer.dataSize
  · exact ⟨context, _, .refused, .ensured item.name, by rw [handled, if_pos behind], shelf, rfl, rfl, present.symm, rfl,
      .behind (by rwa [length]), .refused⟩
  · have begins := Nat.le_of_not_lt behind
    have sets : (∃ code, (if blockOffset request = 0 then setShelfItemData heap item.payloadBuffer request
            else setShelfItemDataAtOffset heap item.payloadBuffer (blockOffset request) request) = .ok (.error code) ∧
          heap.IsShort) ∨
        ∃ after, (if blockOffset request = 0 then setShelfItemData heap item.payloadBuffer request
            else setShelfItemDataAtOffset heap item.payloadBuffer (blockOffset request) request) = .ok (.ok after) ∧
          after.IsOwn ∧ after.value = splice (blockOffset request) request.payload item.payloadBuffer.value := by
      split
      case isTrue start =>
        rw [splice, if_pos start]
        exact setShelfItemData_gives heap own request
      case isFalse further =>
        apply setShelfItemDataAtOffset_gives heap own further begins
        rcases fits with start | late | inside | beyond
        · exact absurd start further
        · exact absurd late behind
        · exact .inl inside
        · exact .inr beyond
    rw [if_neg behind] at handled
    obtain ⟨code, fails, short⟩ | ⟨after, goes, own', value⟩ := sets
    · rw [fails, ok_bind] at handled
      exact ⟨context, _, .refused, .ensured item.name, handled, shelf, rfl, rfl, present.symm, rfl, .noMemory short,
        .refused⟩
    · rw [goes, ok_bind] at handled
      have contents := contents_setBuffer shelf member after
      rw [value] at contents
      refine ⟨_, _, .answered [] false, .wrote item.name (blockOffset request) request.payload, handled,
        shelf.setBuffer member own', rfl, rfl, ?_, active_setBuffer shelf member after, .written (by rwa [length]),
        .written last⟩
      rw [contents, Effect.apply, shelf.contents member, Option.getD_some]

end GoldenGate.TestService
