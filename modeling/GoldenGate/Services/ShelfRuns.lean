import GoldenGate.Lib.Runs
import GoldenGate.Services.ShelfRequests

/-! # Runs of the shelf

Any requests from the first one on are handled as by a map, as long as none of them runs into what the handler misses.
-/

namespace GoldenGate.TestService

open Coap Memory

/-- A request that does not run into what the handler misses. -/
structure IsSafe (heap : Heap) (context : ShelfContext) (request : Content) : Prop where
  path : ∃ name, shelfName request = .ok name
  /-- An unnamed item gets a name. -/
  unnamed : shelfName request = .ok none → request.code = methodPost → context.activeUnnamedShelfItem = none →
    HasUnusedName context
  /-- The payload goes into the item that is being uploaded. -/
  post : shelfName request = .ok none → request.code = methodPost → ∀ item ∈ context.shelfList,
    context.activeUnnamedShelfItem = some item.address → FitsInto request item.payloadBuffer
  /-- No item is being uploaded when all are deleted. -/
  deleteAll : shelfName request = .ok none → request.code = methodDelete → context.activeUnnamedShelfItem = none
  /-- The piece that is asked for is what the value begins with. -/
  get : ∀ name, shelfName request = .ok (some name) → request.code = methodGet → ∀ item,
    findShelfItemWithName context name = some item → ∀ shown more,
      piece request item.payloadBuffer.value = .answered shown more → shown <+: item.payloadBuffer.value
  /-- The name of a new item is not too long, and there is memory for the item. -/
  create : ∀ name, shelfName request = .ok (some name) → request.code = methodPut →
    findShelfItemWithName context name = none → name.length ≤ maxShelfNameLength ∧
      heap.allocate shelfItemSize ≠ none ∧ heap.allocate DynamicBuffer.structSize ≠ none
  /-- The payload goes into the item. -/
  put : ∀ name, shelfName request = .ok (some name) → request.code = methodPut → ∀ item,
    findShelfItemWithName context name = some item → FitsInto request item.payloadBuffer
  /-- The item is not being uploaded when it is deleted. -/
  delete : ∀ name, shelfName request = .ok (some name) → request.code = methodDelete → ∀ item,
    findShelfItemWithName context name = some item → context.activeUnnamedShelfItem ≠ some item.address

variable {heap : Heap} {context : ShelfContext} {request : Content}

/-- One request is handled as by the map. -/
theorem shelfOnRequest_refines (shelf : IsShelf context) (safe : IsSafe heap context request) :
    Refines heap context request (shelfOnRequest heap context request) := by
  obtain ⟨target, isTarget⟩ := safe.path
  have shelf' := shelf.responding { context.toResponseContext with responseOptions := [] }
  have different : methodPost ≠ methodGet ∧ methodPut ≠ methodGet ∧ methodDelete ≠ methodGet ∧
    methodDelete ≠ methodPost ∧ methodDelete ≠ methodPut := by decide
  simp only [shelfOnRequest, isTarget, ok_bind]
  cases target with
  | none =>
      simp only
      split
      case isTrue isGet => exact onList_refines heap shelf' rfl isTarget isGet
      case isFalse notGet =>
          split
          case isTrue isPost =>
              exact onPost_refines heap shelf' rfl isTarget isPost (safe.unnamed isTarget isPost) (safe.post isTarget isPost)
          case isFalse notPost =>
              split
              case isTrue isDelete =>
                  exact onDeleteAll_refines heap rfl isTarget isDelete (safe.deleteAll isTarget isDelete)
              case isFalse notDelete =>
                  refine .kept shelf' _ rfl (.noMethod isTarget notGet notDelete (fun _ => notPost) ?_)
                  exact fun some_ => absurd rfl some_
  | some name =>
      simp only
      split
      case isTrue isGet => exact onGet_refines shelf' rfl isTarget isGet (safe.get name isTarget isGet)
      case isFalse notGet =>
          split
          case isTrue isPut =>
              exact onPut_refines heap shelf' rfl isTarget isPut (safe.create name isTarget isPut)
                (safe.put name isTarget isPut)
          case isFalse notPut =>
              split
              case isTrue isDelete =>
                  exact onDelete_refines heap shelf' rfl isTarget isDelete (safe.delete name isTarget isDelete)
              case isFalse notDelete =>
                  exact .kept shelf' _ rfl (.noMethod isTarget notGet notDelete nofun fun _ => notPut)

/-- The service after some requests: what its sender has seen is in the history. -/
structure ShelfRun where
  context : ShelfContext
  history : List (Heap × Content × Outcome)

/-- Nothing is on the shelf. -/
def ShelfRun.start : ShelfRun := ⟨⟨⟨0, []⟩, [], none, 0⟩, []⟩

/-- The next request is handled, with the memory there is. -/
def handleNext (run : ShelfRun) (input : Heap × Content) : Access ShelfRun := do
  let (context, result) ← shelfOnRequest input.1 run.context input.2
  .ok ⟨context, run.history ++ [(input.1, input.2, outcomeOf result)]⟩

/-- What the sender has seen, and how a map comes to what is on the shelf by it. -/
structure Explains (entries : List MapShelf.Entry) (run : ShelfRun) : Prop where
  shelf : IsShelf run.context
  seen : run.history = entries.map fun entry => (entry.heap, entry.request, entry.outcome)
  run : MapShelf.empty.Run entries (mapOf run.context)

/-- Some requests are handled as by a map. -/
def BehavesAsMap (inputs : List (Heap × Content)) : Prop :=
  ∃ run entries, inputs.foldlM handleNext .start = .ok run ∧ Explains entries run ∧
    MapShelf.UploadsReplace entries ∧ MapShelf.DownloadsShow entries

/-- One request more is explained. -/
theorem Explains.next {entries : List MapShelf.Entry} {run : ShelfRun} (explains : Explains entries run)
    {input : Heap × Content} (safe : IsSafe input.1 run.context input.2) :
    ∃ run' entry, handleNext run input = .ok run' ∧ Explains (entries ++ [entry]) run' := by
  obtain ⟨context', result, effect, goes, shelf', contents, handles⟩ := shelfOnRequest_refines explains.shelf safe
  refine ⟨⟨context', run.history ++ [(input.1, input.2, outcomeOf result)]⟩,
    ⟨input.1, input.2, outcomeOf result, effect⟩, ?_, shelf', ?_, ?_⟩
  · rw [handleNext, goes, ok_bind]
  · simp only [explains.seen, List.map_append, List.map_cons, List.map_nil]
  · refine MapShelf.run_append.mpr ⟨mapOf run.context, explains.run, (mapOf context').active, handles, ?_⟩
    rw [MapShelf.Run, ← contents]

/-- Whatever is requested, the shelf behaves as a map, if no request runs into what the handler misses. -/
theorem shelf_refines_map (inputs : List (Heap × Content))
    (safe : Runs.Follows handleNext (fun run input => IsSafe input.1 run.context input.2) .start inputs) :
    BehavesAsMap inputs := by
  have keeps (run : ShelfRun) (input : Heap × Content) (explained : ∃ entries, Explains entries run)
      (safe : IsSafe input.1 run.context input.2) :
      ∃ run', handleNext run input = .ok run' ∧ ∃ entries, Explains entries run' := by
    obtain ⟨entries, explains⟩ := explained
    obtain ⟨run', entry, goes, explains'⟩ := explains.next safe
    exact ⟨run', goes, _, explains'⟩
  have starts : Explains [] .start :=
    ⟨⟨List.nodup_nil, List.nodup_nil, nofun, nofun, nofun, nofun⟩, rfl, rfl⟩
  obtain ⟨run, runs, entries, explains⟩ := safe.run keeps ⟨[], starts⟩
  exact ⟨run, entries, runs, explains, MapShelf.uploads_replace entries, explains.run.downloads_show⟩

/-- There is memory for everything. -/
def plentiful : Heap := ⟨fun size => some (List.replicate size 0), fun size bytes given => by
  cases given
  exact List.length_replicate⟩

/-- The path of an item. -/
def shelfPath (name : List UInt8) : List MessageOption :=
  [[0x74, 0x65, 0x73, 0x74], [0x73, 0x68, 0x65, 0x6C, 0x66], name].map fun chars =>
    ⟨optionUriPath, .string (some chars) chars.length⟩

theorem shelfName_shelfPath (method : UInt8) (name payload : List UInt8) :
    shelfName ⟨method, shelfPath name, payload⟩ = .ok (some name) := by
  have inside : 0 + name.length ≤ name.length := Nat.le_of_eq (Nat.zero_add _)
  have reads : loadBytes name 0 name.length = .ok name := by
    rw [loadBytes, if_pos inside, List.drop_zero, List.take_length]
  have third : ((shelfPath name).filter (·.number = optionUriPath))[2]? =
      some ⟨optionUriPath, .string (some name) name.length⟩ := rfl
  simp only [shelfName, third, Option.map_some, reads, ok_bind]

/-- What a request for an item runs into depends on the item. -/
theorem IsSafe.ofItem {name : List UInt8} {item : ShelfItem} (named : shelfName request = .ok (some name))
    (found : findShelfItemWithName context name = some item)
    (get : request.code = methodGet → ∀ shown more,
      piece request item.payloadBuffer.value = .answered shown more → shown <+: item.payloadBuffer.value)
    (put : request.code = methodPut → FitsInto request item.payloadBuffer)
    (delete : request.code = methodDelete → context.activeUnnamedShelfItem ≠ some item.address) :
    IsSafe heap context request := by
  have notNone : shelfName request ≠ .ok none := by simp [named]
  have only {name' : List UInt8} {item' : ShelfItem} (is : shelfName request = .ok (some name'))
      (found' : findShelfItemWithName context name' = some item') : item' = item := by
    cases named.symm.trans is
    exact Option.some.inj (found'.symm.trans found)
  refine ⟨⟨_, named⟩, (absurd · notNone), (absurd · notNone), (absurd · notNone), ?_, ?_, ?_, ?_⟩
  · exact fun _ is isGet _ found' => only is found' ▸ get isGet
  · intro name' is _ none_
    cases named.symm.trans is
    cases none_.symm.trans found
  · exact fun _ is isPut _ found' => only is found' ▸ put isPut
  · exact fun _ is isDelete _ found' => only is found' ▸ delete isDelete

/-- An item is put on the shelf in two blocks, read and deleted. -/
def useOfItem : List (Heap × Content) :=
  let block (info : UInt32) := shelfPath [0x61] ++ [⟨optionBlock1, .uint info⟩]
  [⟨methodPut, block 8, List.replicate 16 1⟩, ⟨methodPut, block 16, [2]⟩, ⟨methodGet, shelfPath [0x61], []⟩,
    ⟨methodDelete, shelfPath [0x61], []⟩].map (plentiful, ·)

theorem shelf_refines_map_item : BehavesAsMap useOfItem := by
  apply shelf_refines_map
  have putOnly : methodPut ≠ methodGet ∧ methodPut ≠ methodDelete := by decide
  have getOnly : methodGet ≠ methodPut ∧ methodGet ≠ methodDelete := by decide
  have deleteOnly : methodDelete ≠ methodGet ∧ methodDelete ≠ methodPut := by decide
  refine .cons rfl ?_ (.cons rfl ?_ (.cons rfl ?_ (.cons rfl ?_ trivial)))
  · -- the first block creates the item
    have named : shelfName ⟨methodPut, shelfPath [0x61] ++ [⟨optionBlock1, .uint 8⟩], List.replicate 16 1⟩ =
      .ok (some [0x61]) := rfl
    refine ⟨⟨_, named⟩, ?_, ?_, ?_, fun _ _ is => absurd is putOnly.1, ?_, ?_, fun _ _ is => absurd is putOnly.2⟩
    · exact fun is => nomatch named.symm.trans is
    · exact fun is => nomatch named.symm.trans is
    · exact fun is => nomatch named.symm.trans is
    · intro name is _ _
      cases named.symm.trans is
      exact ⟨by decide, nofun, nofun⟩
    · exact fun _ _ _ _ found => nomatch found
  · exact .ofItem rfl rfl (absurd · putOnly.1) (fun _ => .inr (.inr (.inr (by decide)))) (absurd · putOnly.2)
  · refine .ofItem rfl rfl ?_ (absurd · getOnly.1) (absurd · getOnly.2)
    intro _ shown more is
    cases is
    exact List.prefix_rfl
  · refine .ofItem rfl rfl (absurd · deleteOnly.1) (absurd · deleteOnly.2) ?_
    intro _ active
    cases active

/-- A PUT under a new name that is too long goes on with an item that was not created. -/
theorem put_tooLong {name : List UInt8} (named : shelfName request = .ok (some name)) (isPut : request.code = methodPut)
    (notFound : findShelfItemWithName context name = none) (long : maxShelfNameLength < name.length) :
    shelfOnRequest heap context request = .error .undefined := by
  have notGet : methodPut ≠ methodGet := by decide
  have absent : findShelfItemWithName { context with responseOptions := [] } name = none := notFound
  simp only [shelfOnRequest, named, ok_bind, isPut, if_neg notGet, if_true, onPut, absent, createShelfItem, if_pos long]

theorem not_behavesAsMap_long :
    ¬∀ inputs : List (Heap × Content), (∀ input ∈ inputs, ∃ name, shelfName input.2 = .ok name) →
      BehavesAsMap inputs := by
  intro behaves
  have named := shelfName_shelfPath methodPut (List.replicate 129 0x61) [1, 2, 3]
  obtain ⟨run, entries, runs, -⟩ :=
    behaves [(plentiful, ⟨methodPut, shelfPath (List.replicate 129 0x61), [1, 2, 3]⟩)] (by
      intro input member
      cases List.mem_singleton.mp member
      exact ⟨_, named⟩)
  have long : maxShelfNameLength < (List.replicate 129 (0x61 : UInt8)).length := by
    rw [List.length_replicate]
    decide
  have fails := @put_tooLong plentiful ShelfRun.start.context _ _ named rfl rfl long
  rw [List.foldlM_cons, handleNext, fails] at runs
  cases runs

end GoldenGate.TestService
