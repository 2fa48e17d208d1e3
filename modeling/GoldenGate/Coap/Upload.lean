import GoldenGate.Coap.Blockwise
import GoldenGate.Lib.Runs

/-! # Uploads

A PUT or POST request whose payload is sent in BLOCK1 blocks, to a server that asks for the
next block again and again.
-/

namespace GoldenGate.Coap

open Memory

/-- The bytes that were sent. -/
def sentBytes (requests : List SubRequest) : List UInt8 := (requests.map (·.payload)).flatten

@[simp] theorem sentBytes_concat (requests : List SubRequest) (request : SubRequest) :
    sentBytes (requests ++ [request]) = sentBytes requests ++ request.payload := by
  simp [sentBytes]

/-- What a request tells of its block: where it lies and whether it is the last one. -/
def TellsBlock (payload : List UInt8) (before : Nat) (request : SubRequest) : Prop :=
  ∃ info, getBlockInfo request.options optionBlock1 0 = .ok info ∧ IsBlockSize info.size ∧ info.size ∣ before ∧
    (info.more = false ↔ before + request.payload.length = payload.length) ∧
    (before / info.size < 2 ^ 20 → info.offset = before)

/-- The requests have sent a part of the payload, from its beginning and without a gap, and each
    has told the block it carries. -/
structure Uploaded (payload : List UInt8) (requests : List SubRequest) : Prop where
  stream : sentBytes requests <+: payload
  blocks : ∀ earlier request later, requests = earlier ++ request :: later →
    TellsBlock payload (sentBytes earlier).length request

/-- The current block of an upload. -/
structure BlockSource.Chunk (payload : List UInt8) (info : BlockInfo) (payloadSize : Nat) : Prop where
  isSize : IsBlockSize info.size
  divides : info.size ∣ info.offset
  inside : info.offset + payloadSize ≤ payload.length
  last : info.more = false ↔ info.offset + payloadSize = payload.length
  full : info.more = true → payloadSize = info.size

/-- An upload whose current block has been sent. -/
structure Uploading (payload : List UInt8) (requests : List SubRequest) (context : RequestContext) : Prop where
  active : context.block1Active = true
  runs : context.paused = false
  source : context.source = some (.ofPayload payload)
  chunk : BlockSource.Chunk payload context.block1Info context.block1PayloadSize
  sent : (sentBytes requests).length = context.block1Info.offset + context.block1PayloadSize
  uploaded : Uploaded payload requests

/-- The upload goes on or is over; its requests are in order. -/
def UploadOk (payload : List UInt8) (transfer : Transfer) : Prop :=
  transfer.context = none ∧ Uploaded payload transfer.requests ∨
    ∃ context, transfer.context = some context ∧ Uploading payload transfer.requests context

/-- Where the source can be asked, the chunk is what there is. -/
theorem chunk_of_getDataSize {payload : List UInt8} {info : BlockInfo} {size : Nat} {more : Bool}
    (isSize : IsBlockSize info.size) (divides : info.size ∣ info.offset)
    (asked : adjustAndGetChunkSize info.offset info.size payload.length = .ok (size, more)) :
    BlockSource.Chunk payload { info with more := more } size := by
  unfold adjustAndGetChunkSize at asked
  split at asked
  · exact nomatch asked
  · rename_i within
    split at asked
    · obtain ⟨rfl, rfl⟩ := Prod.mk.inj (Except.ok.inj asked)
      have whole : info.offset + (payload.length - info.offset) = payload.length :=
        Nat.add_sub_of_le (Nat.le_of_not_le within)
      exact ⟨isSize, divides, Nat.le_of_eq whole, by simpa using whole, by simp⟩
    · rename_i between
      obtain ⟨rfl, rfl⟩ := Prod.mk.inj (Except.ok.inj asked)
      have less : info.offset + info.size < payload.length := Nat.not_le.mp between
      exact ⟨isSize, divides, Nat.le_of_lt less, by simpa using Nat.ne_of_lt less, fun _ => rfl⟩

/-- The sub-request of an upload carries the chunk and tells where it lies. -/
theorem subRequest_chunk {payload : List UInt8} {context : RequestContext} (active : context.block1Active = true)
    (source : context.source = some (.ofPayload payload))
    (chunk : BlockSource.Chunk payload context.block1Info context.block1PayloadSize) :
    ∃ request, context.subRequest = .ok request ∧
      request.payload = (payload.drop context.block1Info.offset).take context.block1PayloadSize ∧
      TellsBlock payload context.block1Info.offset request := by
  obtain ⟨value, isValue, tells⟩ := BlockInfo.toOptionValue_spec chunk.isSize
  have block1 : context.block1Option = .ok ([⟨optionBlock1, .uint value⟩], some value) := by
    rw [RequestContext.block1Option, if_pos active, isValue]
  have block2 : ∃ options, context.block2Option (some value) = .ok options := by
    unfold RequestContext.block2Option
    split
    · cases context.block2Info.toOptionValue <;> exact ⟨_, rfl⟩
    · exact ⟨_, rfl⟩
  obtain ⟨options, isBlock2⟩ := block2
  have data : context.blockPayload = .ok ((payload.drop context.block1Info.offset).take context.block1PayloadSize) := by
    unfold RequestContext.blockPayload
    split
    · rw [source]
      rfl
    · rename_i none
      have zero : context.block1PayloadSize = 0 := by
        by_contra notZero
        exact none ⟨active, notZero⟩
      rw [zero, List.take_zero]
  refine ⟨_, by simp only [RequestContext.subRequest, block1, ok_bind, isBlock2, data]; rfl, rfl, ?_⟩
  have length : ((payload.drop context.block1Info.offset).take context.block1PayloadSize).length =
      context.block1PayloadSize := by
    have inside := chunk.inside
    rw [List.length_take, List.length_drop]
    omega
  have told : getBlockInfo ([⟨optionBlock1, .uint value⟩] ++ (options ++ (context.ifMatchOption ++ context.options)))
      optionBlock1 0 = blockInfoOfValue value := by
    simp only [getBlockInfo, getOption, List.cons_append, List.find?_cons, decide_true]
  refine ⟨_, told.trans tells, chunk.isSize, chunk.divides, ?_, ?_⟩
  · simp only [chunk.last, length]
  · intro fits
    exact congrArg BlockInfo.offset (BlockInfo.told_eq chunk.divides fits)

/-- The next request is appended to those before it. -/
theorem Uploaded.concat {payload : List UInt8} {requests : List SubRequest} {request : SubRequest} {size : Nat}
    (uploaded : Uploaded payload requests)
    (carries : request.payload = (payload.drop (sentBytes requests).length).take size)
    (tells : TellsBlock payload (sentBytes requests).length request) : Uploaded payload (requests ++ [request]) := by
  constructor
  · rw [sentBytes_concat, carries]
    obtain ⟨rest, whole⟩ := uploaded.stream
    rw [← whole, List.drop_left, List.prefix_append_right_inj]
    exact List.take_prefix _ _
  · intro earlier request' later split
    rcases List.eq_nil_or_concat later with rfl | ⟨before, last, rfl⟩
    · obtain ⟨rfl, rfl⟩ := List.append_singleton_inj.mp split
      exact tells
    · rw [List.concat_eq_append, ← List.cons_append, ← List.append_assoc] at split
      exact uploaded.blocks earlier request' before (List.append_singleton_inj.mp split).1

/-- The upload sends its current chunk. -/
theorem send_chunk {payload : List UInt8} {transfer : Transfer} {context : RequestContext}
    (active : context.block1Active = true) (runs : context.paused = false)
    (source : context.source = some (.ofPayload payload))
    (chunk : BlockSource.Chunk payload context.block1Info context.block1PayloadSize)
    (sent : (sentBytes transfer.requests).length = context.block1Info.offset)
    (uploaded : Uploaded payload transfer.requests) :
    ∃ transfer', transfer.sendBlockwiseRequest context .pending = .ok (transfer', .ok ()) ∧
      transfer'.context = some context ∧ Uploading payload transfer'.requests context := by
  obtain ⟨request, isRequest, carries, tells⟩ := subRequest_chunk active source chunk
  refine ⟨{ transfer with context := some context, isPending := true, requests := transfer.requests ++ [request] },
    ?_, rfl, active, runs, source, chunk, ?_, ?_⟩
  · rw [Transfer.sendBlockwiseRequest, if_neg (by simp [runs]), isRequest]
    rfl
  · have inside := chunk.inside
    rw [sentBytes_concat, List.length_append, sent, carries, List.length_take, List.length_drop]
    omega
  · rw [← sent] at carries tells
    exact uploaded.concat carries tells

theorem uploadOk_error {payload : List UInt8} {transfer : Transfer} (uploaded : Uploaded payload transfer.requests)
    (error : Error) : UploadOk payload (transfer.notifyErrorAndTerminate error) :=
  .inl ⟨rfl, uploaded⟩

/-- The server asks for the next block: it begins where the last one ended, or there is none. -/
theorem onContinueResponse_uploads {payload : List UInt8} {transfer : Transfer} {context : RequestContext}
    (uploading : Uploading payload transfer.requests context) (response : Content) :
    ∃ transfer', transfer.onContinueResponse context response .pending = .ok transfer' ∧
      UploadOk payload transfer' := by
  obtain ⟨active, runs, source, chunk, sent, uploaded⟩ := uploading
  unfold Transfer.onContinueResponse
  cases tells : getBlockInfo response.options optionBlock1 0 with
  | error error => exact ⟨_, rfl, uploadOk_error uploaded _⟩
  | ok blockInfo =>
      have isSize' : IsBlockSize blockInfo.size := (getBlockInfo_isBlockSize tells).1
      simp only [source]
      unfold RequestContext.sized
      simp only [BlockSource.ofPayload_getDataSize]
      cases asked : adjustAndGetChunkSize (context.block1Info.offset + context.block1PayloadSize)
          (min context.block1Info.size blockInfo.size) payload.length with
      | error error => exact ⟨_, rfl, uploadOk_error uploaded _⟩
      | ok chunk' =>
          obtain ⟨size, more⟩ := chunk'
          -- there is a next block, so the last one was full
          have notLast : context.block1Info.more = true := by
            by_contra isLast
            have whole := chunk.last.mp (by simpa using isLast)
            rw [adjustAndGetChunkSize, if_pos (Nat.le_of_eq whole.symm)] at asked
            exact nomatch asked
          have isSize := chunk.isSize.min isSize'
          have divides : min context.block1Info.size blockInfo.size ∣
              context.block1Info.offset + context.block1PayloadSize := by
            rw [chunk.full notLast]
            have small : min context.block1Info.size blockInfo.size ∣ context.block1Info.size :=
              isSize.dvd chunk.isSize (Nat.min_le_left _ _)
            exact Nat.dvd_add (Nat.dvd_trans small chunk.divides) small
          have next := @chunk_of_getDataSize payload ⟨context.block1Info.offset + context.block1PayloadSize,
            min context.block1Info.size blockInfo.size, context.block1Info.more⟩ size more isSize divides asked
          obtain ⟨transfer', sends, isContext, uploading'⟩ := @send_chunk payload transfer
            { context with
              block1PayloadSize := size
              block1Info := ⟨context.block1Info.offset + context.block1PayloadSize,
                min context.block1Info.size blockInfo.size, more⟩ } active runs source next sent uploaded
          refine ⟨transfer', ?_, .inr ⟨_, isContext, uploading'⟩⟩
          simp only [source] at sends
          simp only [sends]
          rfl

theorem onResponse_uploads {payload : List UInt8} {transfer : Transfer} (uploads : UploadOk payload transfer)
    {response : Content} (isContinue : response.code = codeContinue) :
    ∃ transfer', transfer.onResponse response [] .pending = .ok transfer' ∧ UploadOk payload transfer' := by
  unfold Transfer.onResponse
  rcases uploads with ⟨gone, uploaded⟩ | ⟨context, isContext, uploading⟩
  · rw [gone]
    exact ⟨transfer, rfl, .inl ⟨gone, uploaded⟩⟩
  · rw [isContext]
    simp only
    cases checks : Transfer.checkEtag context response with
    | error error => exact ⟨_, rfl, uploadOk_error uploading.uploaded error⟩
    | ok context' =>
        obtain ⟨etag, rfl⟩ := Transfer.checkEtag_ok checks
        simp only [isContinue, if_true]
        exact @onContinueResponse_uploads payload { transfer with isPending := false } { context with etag := etag }
          ⟨uploading.active, uploading.runs, uploading.source, uploading.chunk, uploading.sent, uploading.uploaded⟩
          response

/-- The responses come one after the other, and the endpoint takes every sub-request. -/
def Transfer.respond (self : Transfer) (responses : List Content) : Access Transfer :=
  responses.foldlM (fun self response => self.onResponse response [] .pending) self

theorem respond_uploads {payload : List UInt8} {transfer : Transfer} (uploads : UploadOk payload transfer)
    {responses : List Content} (areContinues : ∀ response ∈ responses, response.code = codeContinue) :
    ∃ transfer', transfer.respond responses = .ok transfer' ∧ UploadOk payload transfer' := by
  refine Runs.run_goes ?_ uploads areContinues
  exact fun _ _ uploads isContinue => onResponse_uploads uploads isContinue

/-- The first block is the first of 1024 bytes, or all there is. -/
theorem initialContext_chunk {method : Method} (isUpload : method = .put ∨ method = .post) (options : List MessageOption)
    (payload : List UInt8) (preferredBlockSize : Nat) :
    ∃ size more, BlockSource.Chunk payload ⟨0, 1024, more⟩ size ∧
      Transfer.initialContext method options (some (.ofPayload payload)) preferredBlockSize =
        { Transfer.initialContext method options none preferredBlockSize with
          source := some (.ofPayload payload)
          block1PayloadSize := size
          block1Info := ⟨0, 1024, more⟩ } := by
  have isSize : IsBlockSize 1024 := ⟨6, by decide, rfl⟩
  simp only [Transfer.initialContext, if_pos isUpload, RequestContext.sized, BlockSource.ofPayload_getDataSize]
  cases asked : adjustAndGetChunkSize 0 1024 payload.length with
  | error error =>
      -- only an empty payload has no first chunk
      have empty : payload.length = 0 := by
        unfold adjustAndGetChunkSize at asked
        split at asked
        · rename_i none
          exact Nat.le_zero.mp none
        · split at asked <;> cases asked
      refine ⟨0, false, ⟨isSize, Nat.dvd_zero _, Nat.zero_le _, ?_, by simp⟩, rfl⟩
      simpa using empty.symm
  | ok chunk =>
      obtain ⟨size, more⟩ := chunk
      exact ⟨size, more, @chunk_of_getDataSize payload ⟨0, 1024, false⟩ size more isSize (Nat.dvd_zero _) asked, rfl⟩

theorem send_uploads {method : Method} (isUpload : method = .put ∨ method = .post) (options : List MessageOption)
    (payload : List UInt8) (preferredBlockSize : Nat) :
    ∃ transfer, Transfer.send method options (some (.ofPayload payload)) preferredBlockSize .pending =
      .ok (transfer, .ok ()) ∧ UploadOk payload transfer := by
  obtain ⟨size, more, chunk, isContext⟩ := initialContext_chunk isUpload options payload preferredBlockSize
  have active : (Transfer.initialContext method options none preferredBlockSize).block1Active = true := by
    simp [Transfer.initialContext, if_pos isUpload]
  have runs : (Transfer.initialContext method options none preferredBlockSize).paused = false := by
    simp [Transfer.initialContext, if_pos isUpload]
  have start : Uploaded payload [] := ⟨List.nil_prefix, by simp⟩
  obtain ⟨transfer, sends, hasContext, uploading⟩ := @send_chunk payload ⟨none, false, [], []⟩
    (Transfer.initialContext method options (some (.ofPayload payload)) preferredBlockSize)
    (by rw [isContext]; exact active) (by rw [isContext]; exact runs) (by rw [isContext])
    (by rw [isContext]; exact chunk) (by rw [isContext]; rfl) start
  refine ⟨transfer, Transfer.send_ok ?_ sends hasContext, .inr ⟨_, hasContext, uploading⟩⟩
  rintro ⟨-, notPut, notPost⟩
  exact isUpload.elim notPut notPost

/-- Whatever the server says when it asks for more, an upload sends the bytes of its source in
    order, without a gap or an overlap, and every request tells the block that it carries. -/
theorem uploaded_of_continues (method : Method) (isUpload : method = .put ∨ method = .post)
    (options : List MessageOption) (payload : List UInt8) (preferredBlockSize : Nat) (responses : List Content)
    (areContinues : ∀ response ∈ responses, response.code = codeContinue) :
    ∃ first transfer, Transfer.send method options (some (.ofPayload payload)) preferredBlockSize .pending =
        .ok (first, .ok ()) ∧
      first.respond responses = .ok transfer ∧ Uploaded payload transfer.requests := by
  obtain ⟨first, sends, uploads⟩ := send_uploads isUpload options payload preferredBlockSize
  obtain ⟨transfer, responds, uploads'⟩ := respond_uploads uploads areContinues
  refine ⟨first, transfer, sends, responds, ?_⟩
  rcases uploads' with ⟨-, uploaded⟩ | ⟨_, -, uploading⟩
  · exact uploaded
  · exact uploading.uploaded

/-- A server that takes the first block and wants 512 bytes at a time from there on. -/
def shrinkingContinues : List Content :=
  [⟨codeContinue, [⟨optionBlock1, .uint 0xD⟩], []⟩, ⟨codeContinue, [⟨optionBlock1, .uint 0x2D⟩], []⟩]

theorem uploaded_shrinkingContinues :
    ∃ first transfer, Transfer.send .put [] (some (.ofPayload (List.replicate 1500 7))) 0 .pending =
        .ok (first, .ok ()) ∧
      first.respond shrinkingContinues = .ok transfer ∧ Uploaded (List.replicate 1500 7) transfer.requests :=
  uploaded_of_continues .put (.inl rfl) [] (List.replicate 1500 7) 0 shrinkingContinues (by decide)

end GoldenGate.Coap
