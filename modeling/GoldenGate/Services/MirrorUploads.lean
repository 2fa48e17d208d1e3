import GoldenGate.Services.Mirror

/-! # Uploads to the mirror

What the mirror tells of an upload that comes in blocks. The checksum of each block is taken over as many bytes as there
have been in all, so that only a first block with bytes is read as far as it goes.
-/

namespace GoldenGate.TestService

open Coap Memory

/-! ## Responses -/

theorem generatePayload_ok {payloadSize : Nat} (small : payloadSize ≤ maxPayloadChunkSize) (offset : Nat) :
    ∃ payload, generatePayload payloadSize offset = .ok payload := by
  rw [maxPayloadChunkSize] at small
  have fits : 4 * ((payloadSize + 3) / 4) ≤ maxPayloadChunkSize := by
    rw [maxPayloadChunkSize]
    omega
  exact ⟨_, if_pos fits⟩

/-- A response with a payload that is generated has the options that are there, and some for its blocks. -/
theorem respond_ok {context : MirrorContext} (few : context.responseOptions.length ≤ 2) {payloadSize : Nat}
    (small : payloadSize ≤ maxPayloadChunkSize) (block1Info block2Info : Option BlockInfo) :
    ∃ code rest payload, respond context payloadSize block1Info block2Info =
      .ok (context, .ok ⟨code, context.responseOptions ++ rest, payload⟩) := by
  obtain ⟨payload, makes⟩ : ∃ payload, responsePayload none payloadSize block2Info = .ok payload := by
    cases block2Info with
    | none => exact generatePayload_ok small 0
    | some info => exact generatePayload_ok small info.offset
  obtain ⟨code, creates⟩ := createResponse_room few block1Info block2Info makes
  refine ⟨code, blockOptions block1Info optionBlock1 ++ blockOptions block2Info optionBlock2, payload, ?_⟩
  simp only [respond, creates, ok_bind]

/-- Without a BLOCK2 option, the response begins with its first chunk. -/
theorem processBlock2Option_none {request : Content}
    (none : getOption request.options optionBlock2 = .error .noSuchItem) (payloadSize : Nat) :
    ∃ info chunkSize, processBlock2Option request maxPayloadChunkSize payloadSize = .ok (info, chunkSize) ∧
      (info.more ↔ payloadSize > maxPayloadChunkSize) ∧ chunkSize ≤ maxPayloadChunkSize := by
  have info : getBlockInfo request.options optionBlock2 maxPayloadChunkSize = .ok ⟨0, maxPayloadChunkSize, false⟩ := by
    simp only [getBlockInfo, none]
    rfl
  simp only [processBlock2Option, info]
  by_cases empty : payloadSize = 0
  · rw [if_pos empty]
    exact ⟨_, _, rfl, by simp [empty], Nat.zero_le _⟩
  · rw [if_neg empty]
    simp only [adjustAndGetChunkSize]
    rw [if_neg (by omega)]
    by_cases whole : 0 + maxPayloadChunkSize ≥ payloadSize
    · rw [if_pos whole]
      refine ⟨_, _, rfl, ?_, by omega⟩
      simp only [Bool.false_eq_true, false_iff]
      omega
    · rw [if_neg whole]
      refine ⟨_, _, rfl, ?_, Nat.le_refl _⟩
      simp only [true_iff]
      omega

/-! ## Uploads -/

/-- A request that is a block of an upload, with whether there are more. -/
structure IsBlock (request : Content) (more : Bool) : Prop where
  method : request.code = methodPut ∨ request.code = methodPost
  block1 : ∃ info, getBlockInfo request.options optionBlock1 0 = .ok info ∧ info.more = more
  block2 : getOption request.options optionBlock2 = .error .noSuchItem
  /-- The queries are before the BLOCK1 option, so that their numbers end before the datagram does. -/
  queries : ∃ query, parseQueryOptions request = .ok query

/-- All the blocks of an upload, of which the last one is known as such. -/
inductive IsUpload : List Content → Prop where
  | last {request : Content} : IsBlock request false → IsUpload [request]
  | more {request : Content} {requests : List Content} :
      IsBlock request true → IsUpload requests → IsUpload (request :: requests)

/-- The payload that is split. -/
def wholePayload (requests : List Content) : List UInt8 := requests.flatMap Content.payload

/-- The last response tells the size and the checksum of a payload. -/
def Tells (response : Content) (payload : List UInt8) : Prop :=
  (∃ size, getOption response.options responseOptionPayloadSize = .ok (.bytes (some (bytesFromInt32Be size)) 4) ∧
    size.toNat = payload.length) ∧
  getOption response.options responseOptionPayloadCrc = .ok (.bytes (some (bytesFromInt32Be (crc32 0 payload))) 4)

/-- The requests are handled, without a byte outside of their payloads, and the last response tells the whole payload. -/
def TellsWhole (context : MirrorContext) (requests : List Content) : Prop :=
  ∃ context' response, mirrorRun context requests = .ok (context', some (.ok response)) ∧
    Tells response (wholePayload requests)

/-- The size that a request asks for goes into one response. -/
def AsksLittle (request : Content) : Prop :=
  ∀ query, parseQueryOptions request = .ok query → query.1 ≤ maxPayloadChunkSize

/-- There is one block, or no bytes in any but the last one, and the response is in one piece. -/
def IsOnePiece : List Content → Prop
  | [] => True
  | [_] => True
  | first :: requests => AsksLittle first ∧ ∀ request ∈ (first :: requests).dropLast, request.payload = []

/-- The options for what has been received. -/
def receivedOptions (context : MirrorContext) : List MessageOption :=
  [⟨responseOptionPayloadSize, .bytes (some (bytesFromInt32Be context.receivedPayloadSize)) 4⟩,
    ⟨responseOptionPayloadCrc, .bytes (some (bytesFromInt32Be context.receivedPayloadCrc)) 4⟩]

theorem populateFor_upload {request : Content} {more : Bool} (isBlock : IsBlock request more) {context : MirrorContext}
    (reset : context.responseOptions = []) :
    populateFor request.code context = .ok { context with responseOptions := receivedOptions context } := by
  simp only [populateFor, if_pos isBlock.method, populatePayloadSizeAndCrcOptions, reset]
  rfl

theorem bytesFromInt32Be_inj {a b : UInt32} (same : bytesFromInt32Be a = bytesFromInt32Be b) : a = b := by
  rw [← bytesToInt32Be_from a, ← bytesToInt32Be_from b]
  simp only [bytesFromInt32Be, List.cons.injEq] at same
  rw [same.1, same.2.1, same.2.2.1, same.2.2.2.1]

/-- A response with the options of a context tells what the context has received. -/
theorem tells_iff (context : MirrorContext) (code : UInt8) (rest : List MessageOption) (generated payload : List UInt8) :
    Tells ⟨code, receivedOptions context ++ rest, generated⟩ payload ↔
      context.receivedPayloadSize.toNat = payload.length ∧ context.receivedPayloadCrc = crc32 0 payload := by
  have size : getOption (receivedOptions context ++ rest) responseOptionPayloadSize =
      .ok (.bytes (some (bytesFromInt32Be context.receivedPayloadSize)) 4) := rfl
  have crc : getOption (receivedOptions context ++ rest) responseOptionPayloadCrc =
      .ok (.bytes (some (bytesFromInt32Be context.receivedPayloadCrc)) 4) := rfl
  simp only [Tells, size, crc, Except.ok.injEq, OptionValue.bytes.injEq, Option.some.injEq, and_true]
  constructor
  · intro ⟨⟨other, isOther, length⟩, isCrc⟩
    exact ⟨bytesFromInt32Be_inj isOther ▸ length, bytesFromInt32Be_inj isCrc⟩
  · intro ⟨length, isCrc⟩
    exact ⟨⟨_, rfl, length⟩, congrArg bytesFromInt32Be isCrc⟩

/-! ## One request -/

/-- What has been received with a request, if its payload is as long as that. -/
def receive (context : MirrorContext) (request : Content) : MirrorContext :=
  let size := context.receivedPayloadSize + UInt32.ofNat request.payload.length
  { context with
    receivedPayloadSize := size
    receivedPayloadCrc := crc32 context.receivedPayloadCrc (request.payload.take size.toNat) }

theorem update_inside {request : Content} {context : MirrorContext}
    (inside : (receive context request).receivedPayloadSize.toNat ≤ request.payload.length) :
    updateReceivedPayloadInfo request context = .ok (receive context request) := by
  have fits : 0 + (receive context request).receivedPayloadSize.toNat ≤ request.payload.length := by omega
  simp only [updateReceivedPayloadInfo, loadBytes]
  exact congrArg (· >>= _) (if_pos fits)

theorem update_outside {request : Content} {context : MirrorContext}
    (outside : request.payload.length < (receive context request).receivedPayloadSize.toNat) :
    updateReceivedPayloadInfo request context = .error .outOfBounds := by
  have misses : ¬ 0 + (receive context request).receivedPayloadSize.toNat ≤ request.payload.length := by omega
  simp only [updateReceivedPayloadInfo, loadBytes]
  exact congrArg (· >>= _) (if_neg misses)

/-- A context in which a new request is received, with its queries. -/
def fresh (context : MirrorContext) (query : Nat × UInt8) : MirrorContext :=
  { context with
    state := .idle
    responseOptions := []
    receivedPayloadSize := 0
    receivedPayloadCrc := 0
    payloadSize := query.1
    responseCode := query.2 }

/-- The first request is always read as far as its payload goes. -/
theorem onRequest_idle {context : MirrorContext} (idle : context.state = .idle) {request : Content} {more : Bool}
    (isBlock : IsBlock request more) {query : Nat × UInt8} (queries : parseQueryOptions request = .ok query) :
    ∃ info, info.more = more ∧
      mirrorOnRequest context request = onFirst request (receive (fresh context query) request) (some info) := by
  obtain ⟨info, isInfo, isMore⟩ := isBlock.block1
  refine ⟨info, isMore, ?_⟩
  have inside (context : MirrorContext) (none : context.receivedPayloadSize = 0) :
      (receive context request).receivedPayloadSize.toNat ≤ request.payload.length := by
    simp only [receive, none, UInt32.zero_add, UInt32.toNat_ofNat']
    exact Nat.mod_le _ _
  simp only [mirrorOnRequest, idle, onIdle, queries, isInfo]
  rw [update_inside (inside _ rfl)]
  rfl

theorem onFirst_last {request : Content} (isBlock : IsBlock request false) {context : MirrorContext}
    (reset : context.responseOptions = []) {info : BlockInfo} (isLast : info.more = false) :
    ∃ context' code rest generated, onFirst request context (some info) =
      .ok (context', .ok ⟨code, receivedOptions context ++ rest, generated⟩) := by
  obtain ⟨info₂, chunkSize, isInfo₂, -, small⟩ := processBlock2Option_none isBlock.block2 context.payloadSize
  simp only [onFirst, isLast, Bool.false_eq_true, if_false, populateFor_upload isBlock reset, ok_bind, isInfo₂]
  split
  · obtain ⟨code, rest, generated, responds⟩ := @respond_ok
      { context with responseOptions := receivedOptions context, state := .blockTx } (Nat.le_refl 2) _ small (some info)
      (some info₂)
    exact ⟨_, code, rest, generated, responds⟩
  · obtain ⟨code, rest, generated, responds⟩ := @respond_ok
      { context with responseOptions := receivedOptions context } (Nat.le_refl 2) _ small (some info) none
    exact ⟨_, code, rest, generated, responds⟩

/-- After the first of several blocks, the mirror receives the others, unless a large response begins. -/
theorem onFirst_more {request : Content} (isBlock : IsBlock request true) {context : MirrorContext}
    (reset : context.responseOptions = []) {info : BlockInfo} (isMore : info.more = true) :
    ∃ result, onFirst request context (some info) =
      .ok ({ context with state := if context.payloadSize > maxPayloadChunkSize then .blockTx else .blockRx }, result) := by
  obtain ⟨info₂, chunkSize, isInfo₂, isLarge, small⟩ := processBlock2Option_none isBlock.block2 context.payloadSize
  simp only [onFirst, isMore, if_true, ok_bind, isInfo₂]
  have few : context.responseOptions.length ≤ 2 := by
    rw [reset]
    exact Nat.zero_le 2
  by_cases large : context.payloadSize > maxPayloadChunkSize
  · rw [if_pos (isLarge.mpr large), if_pos large]
    obtain ⟨code, rest, generated, responds⟩ := @respond_ok { context with state := .blockTx } few _ small (some info)
      (some info₂)
    exact ⟨_, responds⟩
  · rw [if_neg (mt isLarge.mp large), if_neg large]
    obtain ⟨code, rest, generated, responds⟩ := @respond_ok { context with state := .blockRx } few _ small (some info)
      none
    exact ⟨_, responds⟩

/-- While a response is sent in blocks, a block of an upload is refused. -/
theorem onRequest_tx {context : MirrorContext} (tx : context.state = .blockTx) {request : Content} {more : Bool}
    (isBlock : IsBlock request more) :
    mirrorOnRequest context request = .ok ({ context with responseOptions := [] }, .error codeBadOption) := by
  have info : getBlockInfo request.options optionBlock2 0 = .error .noSuchItem := by
    simp only [getBlockInfo, isBlock.block2]
    rfl
  simp only [mirrorOnRequest, tx, onBlockTx, processBlock2Option, info]

/-- A context as a request finds it. -/
def reset (context : MirrorContext) : MirrorContext := { context with responseOptions := [] }

theorem onRequest_rx {context : MirrorContext} (rx : context.state = .blockRx) (request : Content) :
    mirrorOnRequest context request = onBlockRx request (reset context) := by
  cases context with
  | mk base state size crc payloadSize =>
      cases rx
      rfl

theorem onRequest_rx_outside {context : MirrorContext} (rx : context.state = .blockRx) {request : Content}
    (outside : request.payload.length < (receive (reset context) request).receivedPayloadSize.toNat) :
    mirrorOnRequest context request = .error .outOfBounds := by
  rw [onRequest_rx rx, onBlockRx, update_outside outside]
  rfl

theorem onRequest_rx_more {context : MirrorContext} (rx : context.state = .blockRx) {request : Content}
    (isBlock : IsBlock request true)
    (inside : (receive (reset context) request).receivedPayloadSize.toNat ≤ request.payload.length) :
    ∃ result, mirrorOnRequest context request = .ok (receive (reset context) request, result) := by
  obtain ⟨info, isInfo, isMore⟩ := isBlock.block1
  obtain ⟨code, rest, generated, responds⟩ := @respond_ok (receive (reset context) request) (Nat.zero_le 2) _
    (Nat.zero_le _) (some info) none
  rw [onRequest_rx rx, onBlockRx, update_inside inside, ok_bind]
  simp only [isInfo, isMore, if_true]
  exact ⟨_, responds⟩

theorem onRequest_rx_last {context : MirrorContext} (rx : context.state = .blockRx)
    (small : context.payloadSize ≤ maxPayloadChunkSize) {request : Content} (isBlock : IsBlock request false)
    (inside : (receive (reset context) request).receivedPayloadSize.toNat ≤ request.payload.length) :
    ∃ context' code rest generated, mirrorOnRequest context request =
      .ok (context', .ok ⟨code, receivedOptions (receive (reset context) request) ++ rest, generated⟩) := by
  obtain ⟨info, isInfo, isLast⟩ := isBlock.block1
  have populates := @populateFor_upload request false isBlock (receive (reset context) request) rfl
  have notLarge : ¬ (receive (reset context) request).payloadSize > maxPayloadChunkSize := Nat.not_lt.mpr small
  obtain ⟨code, rest, generated, responds⟩ := @respond_ok { receive (reset context) request with
    responseOptions := receivedOptions (receive (reset context) request), state := .idle } (Nat.le_refl 2) _ small
    (some info) none
  rw [onRequest_rx rx, onBlockRx, update_inside inside, ok_bind]
  simp only [isInfo, isLast, Bool.false_eq_true, if_false, populates, ok_bind, if_neg notLarge]
  exact ⟨_, code, rest, generated, responds⟩

/-! ## Whole uploads -/

theorem IsUpload.ne_nil {requests : List Content} (upload : IsUpload requests) : requests ≠ [] := by
  cases upload with
  | last _ => exact List.cons_ne_nil _ _
  | more _ _ => exact List.cons_ne_nil _ _

theorem mirrorRun_more {requests : List Content} (some : requests ≠ []) {context context' : MirrorContext}
    {request : Content} {result : HandlerResult} (first : mirrorOnRequest context request = .ok (context', result)) :
    mirrorRun context (request :: requests) = mirrorRun context' requests := by
  cases requests with
  | nil => exact absurd rfl some
  | cons next requests =>
      rw [mirrorRun, first, ok_bind]
      exact List.cons_ne_nil _ _

theorem mirrorRun_fails {context : MirrorContext} {request : Content} {fault : Fault} (requests : List Content)
    (first : mirrorOnRequest context request = .error fault) :
    mirrorRun context (request :: requests) = .error fault := by
  cases requests with
  | nil =>
      rw [mirrorRun, first]
      rfl
  | cons next requests =>
      rw [mirrorRun, first]
      · rfl
      · exact List.cons_ne_nil _ _

theorem mirrorRun_last {context context' : MirrorContext} {request : Content} {result : HandlerResult}
    (first : mirrorOnRequest context request = .ok (context', result)) :
    mirrorRun context [request] = .ok (context', some result) := by
  rw [mirrorRun, first, ok_bind]

/-- While a response is sent in blocks, an upload comes to nothing. -/
theorem mirrorRun_tx {requests : List Content} (upload : IsUpload requests) {context : MirrorContext}
    (tx : context.state = .blockTx) :
    ∃ context', mirrorRun context requests = .ok (context', some (.error codeBadOption)) := by
  induction upload generalizing context with
  | last isBlock => exact ⟨_, mirrorRun_last (onRequest_tx tx isBlock)⟩
  | more isBlock upload ih =>
      obtain ⟨context', runs⟩ := @ih { context with responseOptions := [] } tx
      exact ⟨context', (mirrorRun_more upload.ne_nil (onRequest_tx tx isBlock)).trans runs⟩

/-- Once there have been bytes, the next block is read too far. -/
theorem mirrorRun_outside {requests : List Content} (upload : IsUpload requests) {context : MirrorContext}
    (rx : context.state = .blockRx) (some : 0 < context.receivedPayloadSize.toNat)
    (small : context.receivedPayloadSize.toNat + (wholePayload requests).length < 2 ^ 32) :
    mirrorRun context requests = .error .outOfBounds := by
  have outside (request : Content) (fits : context.receivedPayloadSize.toNat + request.payload.length < 2 ^ 32) :
      request.payload.length < (receive (reset context) request).receivedPayloadSize.toNat := by
    simp only [receive, reset, UInt32.toNat_add, UInt32.toNat_ofNat']
    omega
  cases upload with
  | last isBlock =>
      refine mirrorRun_fails [] (onRequest_rx_outside rx (outside _ ?_))
      simpa [wholePayload] using small
  | more isBlock upload =>
      refine mirrorRun_fails _ (onRequest_rx_outside rx (outside _ ?_))
      simp only [wholePayload, List.flatMap_cons, List.length_append] at small
      omega

/-- Without bytes before, a block is received as it is. -/
theorem receive_first {context : MirrorContext} (none : context.receivedPayloadSize = 0)
    (zero : context.receivedPayloadCrc = 0) {request : Content} (small : request.payload.length < 2 ^ 32) :
    (receive context request).receivedPayloadSize.toNat = request.payload.length ∧
      (receive context request).receivedPayloadCrc = crc32 0 request.payload := by
  have size : (receive context request).receivedPayloadSize.toNat = request.payload.length := by
    simp only [receive, none, UInt32.zero_add, UInt32.toNat_ofNat', Nat.mod_eq_of_lt small]
  refine ⟨size, ?_⟩
  have takes : (receive context request).receivedPayloadCrc = crc32 context.receivedPayloadCrc
    (request.payload.take (receive context request).receivedPayloadSize.toNat) := rfl
  rw [takes, size, zero, List.take_length]

/-- After a first block, the upload is told if that block has no bytes, and the others are told on their own. -/
theorem mirrorRun_after {requests : List Content} (upload : IsUpload requests) {context : MirrorContext}
    (rx : context.state = .blockRx) {payload : List UInt8} (size : context.receivedPayloadSize.toNat = payload.length)
    (crc : context.receivedPayloadCrc = crc32 0 payload) (small : payload.length + (wholePayload requests).length < 2 ^ 32)
    {others : Prop} (rest : context.receivedPayloadSize = 0 → context.receivedPayloadCrc = 0 →
      (TellsWhole context requests ↔ others)) :
    (∃ context' response, mirrorRun context requests = .ok (context', some (.ok response)) ∧
      Tells response (payload ++ wholePayload requests)) ↔ payload = [] ∧ others := by
  by_cases empty : payload = []
  · subst empty
    have none : context.receivedPayloadSize = 0 := UInt32.toNat_inj.mp size
    simp only [List.nil_append, true_and]
    exact rest none crc
  · have fails := mirrorRun_outside upload rx (by rw [size]; exact List.length_pos_iff.mpr empty) (by rw [size]; exact small)
    constructor
    · intro ⟨context', response, runs, _⟩
      rw [fails] at runs
      cases runs
    · exact fun both => absurd both.1 empty

/-- As long as there have been no bytes, the upload is told if only the last block has some. -/
theorem mirrorRun_rx {requests : List Content} (upload : IsUpload requests) {context : MirrorContext}
    (rx : context.state = .blockRx) (little : context.payloadSize ≤ maxPayloadChunkSize)
    (none : context.receivedPayloadSize = 0) (zero : context.receivedPayloadCrc = 0)
    (small : (wholePayload requests).length < 2 ^ 32) :
    TellsWhole context requests ↔ ∀ request ∈ requests.dropLast, request.payload = [] := by
  induction upload generalizing context with
  | @last request isBlock =>
      rw [wholePayload, List.flatMap_singleton] at small
      obtain ⟨size, crc⟩ := @receive_first (reset context) none zero request small
      obtain ⟨context', code, rest, generated, last⟩ := onRequest_rx_last rx little isBlock (Nat.le_of_eq size)
      refine ⟨fun _ request isFront => absurd isFront List.not_mem_nil, fun _ => ⟨context', _, mirrorRun_last last, ?_⟩⟩
      rw [tells_iff, wholePayload, List.flatMap_singleton]
      exact ⟨size, crc⟩
  | @more request requests isBlock upload ih =>
      have split : wholePayload (request :: requests) = request.payload ++ wholePayload requests := rfl
      rw [split, List.length_append] at small
      obtain ⟨size, crc⟩ := @receive_first (reset context) none zero request (by omega)
      obtain ⟨result, first⟩ := onRequest_rx_more rx isBlock (Nat.le_of_eq size)
      have runs := mirrorRun_more upload.ne_nil first
      rw [List.dropLast_cons_of_ne_nil upload.ne_nil, List.forall_mem_cons]
      simp only [TellsWhole, runs, split]
      exact @mirrorRun_after requests upload (receive (reset context) request) rx request.payload size crc small _
        (fun none zero => ih rx little none zero (by omega))

theorem isOnePiece_more {first : Content} {requests : List Content} (some : requests ≠ []) :
    IsOnePiece (first :: requests) ↔ AsksLittle first ∧ first.payload = [] ∧
      ∀ request ∈ requests.dropLast, request.payload = [] := by
  cases requests with
  | nil => exact absurd rfl some
  | cons next requests =>
      rw [IsOnePiece, List.dropLast_cons_of_ne_nil (List.cons_ne_nil next requests), List.forall_mem_cons]
      exact fun none => absurd none (List.cons_ne_nil next requests)

/-- Exactly when the mirror tells all of an upload: its payload is in one piece, and is counted with 32 bits. -/
theorem tellsWhole_iff {context : MirrorContext} (idle : context.state = .idle) {requests : List Content}
    (upload : IsUpload requests) :
    TellsWhole context requests ↔ (wholePayload requests).length < 2 ^ 32 ∧ IsOnePiece requests := by
  by_cases small : (wholePayload requests).length < 2 ^ 32
  · simp only [small, true_and]
    cases upload with
    | @last request isBlock =>
        rw [wholePayload, List.flatMap_singleton] at small
        obtain ⟨query, queries⟩ := isBlock.queries
        obtain ⟨info, isLast, first⟩ := onRequest_idle idle isBlock queries
        obtain ⟨size, crc⟩ := @receive_first (fresh context query) rfl rfl request small
        obtain ⟨context', code, rest, generated, last⟩ := @onFirst_last request isBlock
          (receive (fresh context query) request) rfl info isLast
        refine ⟨fun _ => trivial, fun _ => ⟨context', _, mirrorRun_last (first.trans last), ?_⟩⟩
        rw [tells_iff, wholePayload, List.flatMap_singleton]
        exact ⟨size, crc⟩
    | @more request requests isBlock upload =>
        have split : wholePayload (request :: requests) = request.payload ++ wholePayload requests := rfl
        rw [split, List.length_append] at small
        obtain ⟨query, queries⟩ := isBlock.queries
        obtain ⟨info, isMore, first⟩ := onRequest_idle idle isBlock queries
        obtain ⟨size, crc⟩ := @receive_first (fresh context query) rfl rfl request (by omega)
        obtain ⟨result, goes⟩ := @onFirst_more request isBlock (receive (fresh context query) request) rfl info isMore
        have runs := mirrorRun_more upload.ne_nil (first.trans goes)
        have asks : AsksLittle request ↔ query.1 ≤ maxPayloadChunkSize := by
          constructor
          · exact fun little => little query queries
          · intro little other isOther
            rw [queries] at isOther
            cases isOther
            exact little
        rw [isOnePiece_more upload.ne_nil, asks]
        simp only [TellsWhole, runs, split]
        by_cases large : query.1 > maxPayloadChunkSize
        · obtain ⟨last, refused⟩ := @mirrorRun_tx requests upload { receive (fresh context query) request with
            state := if (receive (fresh context query) request).payloadSize > maxPayloadChunkSize then .blockTx
              else .blockRx } (if_pos large)
          rw [refused]
          refine ⟨fun ⟨_, _, isLast, _⟩ => ?_, fun both => absurd both.1 (Nat.not_le.mpr large)⟩
          cases isLast
        · have little : query.1 ≤ maxPayloadChunkSize := Nat.le_of_not_gt large
          have rx : (if (receive (fresh context query) request).payloadSize > maxPayloadChunkSize then
            MirrorState.blockTx else .blockRx) = .blockRx := if_neg large
          have after := @mirrorRun_after requests upload { receive (fresh context query) request with
            state := if (receive (fresh context query) request).payloadSize > maxPayloadChunkSize then .blockTx
              else .blockRx } rx request.payload size crc small _
            (fun none zero => mirrorRun_rx upload rx little none zero (by omega))
          rw [after]
          exact ⟨fun both => ⟨little, both⟩, fun both => both.2⟩
  · refine ⟨fun ⟨_, _, _, ⟨size, _, length⟩, _⟩ => absurd (length ▸ size.toNat_lt) small, fun both => absurd both.1 small⟩

/-- Checksums can be chained, and an upload is told exactly when it is in one piece. -/
theorem mirror_upload {context : MirrorContext} (idle : context.state = .idle) {requests : List Content}
    (upload : IsUpload requests) :
    (∀ before after, crc32 (crc32 0 before) after = crc32 0 (before ++ after)) ∧
      (TellsWhole context requests ↔ (wholePayload requests).length < 2 ^ 32 ∧ IsOnePiece requests) :=
  ⟨crc32_append 0, tellsWhole_iff idle upload⟩

/-- The context of a service that has just been created. -/
def initialMirror : MirrorContext := ⟨⟨0, []⟩, .idle, 0, 0, 0⟩

/-- A block of 16 bytes, with its number. -/
def blockOfSixteen (number : UInt32) (more : Bool) : Content :=
  ⟨methodPut, [⟨optionBlock1, .uint (number <<< 4 ||| if more then 8 else 0)⟩], List.replicate 16 0x61⟩

theorem isBlock_first (more : Bool) : IsBlock (blockOfSixteen 0 more) more := by
  cases more with
  | false => exact ⟨.inl rfl, ⟨⟨0, 16, false⟩, by decide, rfl⟩, by decide, ⟨(0, codeChanged), by decide⟩⟩
  | true => exact ⟨.inl rfl, ⟨⟨0, 16, true⟩, by decide, rfl⟩, by decide, ⟨(0, codeChanged), by decide⟩⟩

theorem isBlock_second : IsBlock (blockOfSixteen 1 false) false :=
  ⟨.inl rfl, ⟨⟨16, 16, false⟩, by decide, rfl⟩, by decide, ⟨(0, codeChanged), by decide⟩⟩

theorem mirror_upload_one :
    initialMirror.state = .idle ∧ IsUpload [blockOfSixteen 0 false] ∧
      (∀ before after, crc32 (crc32 0 before) after = crc32 0 (before ++ after)) ∧
      (TellsWhole initialMirror [blockOfSixteen 0 false] ↔
        (wholePayload [blockOfSixteen 0 false]).length < 2 ^ 32 ∧ IsOnePiece [blockOfSixteen 0 false]) :=
  ⟨rfl, .last (isBlock_first false), mirror_upload rfl (.last (isBlock_first false))⟩

/-- Of the second block of an upload, 32 bytes are read, and it has 16. -/
theorem not_tellsWhole_two :
    IsUpload [blockOfSixteen 0 true, blockOfSixteen 1 false] ∧
      mirrorRun initialMirror [blockOfSixteen 0 true, blockOfSixteen 1 false] = .error .outOfBounds ∧
      ¬ TellsWhole initialMirror [blockOfSixteen 0 true, blockOfSixteen 1 false] := by
  have upload := IsUpload.more (isBlock_first true) (.last isBlock_second)
  have fails : mirrorRun initialMirror [blockOfSixteen 0 true, blockOfSixteen 1 false] = .error .outOfBounds := by
    decide
  refine ⟨upload, fails, fun ⟨_, _, runs, _⟩ => ?_⟩
  rw [fails] at runs
  cases runs

end GoldenGate.TestService
