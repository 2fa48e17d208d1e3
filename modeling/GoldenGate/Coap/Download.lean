import GoldenGate.Coap.Blockwise

/-! # Downloads

A GET request whose response comes in BLOCK2 blocks, from a server that makes its responses
with the helpers of `gg_coap_blockwise.c` and takes smaller blocks whenever it likes.
-/

namespace GoldenGate.Coap

open Memory

/-! ## The server -/

/-- `GG_CoapEndpoint_CreateBlockwiseResponseFromBlockSource`. -/
def createBlockwiseResponseFromBlockSource (code : UInt8) (options : List MessageOption) (payloadSource : BlockSource)
    (blockOptionNumber : UInt32) (blockInfo : BlockInfo) : Except Error Content := do
  let (payloadSize, more) ← payloadSource.getDataSize blockInfo.offset blockInfo.size
  let value ← { blockInfo with more := more }.toOptionValue
  return ⟨code, ⟨blockOptionNumber, .uint value⟩ :: options, payloadSource.getData blockInfo.offset payloadSize⟩

/-- A server that returns the block it is asked for, in the size that it chooses for this
    response if that is smaller than the one asked for. -/
def blockServer (payload : List UInt8) (options : List MessageOption) (choices : Nat → Nat)
    (requests : List SubRequest) : Option Content :=
  match requests.getLast? with
  | none => none
  | some request =>
      let choice := choices requests.length
      match getBlockInfo request.options optionBlock2 choice with
      | .error _ => none
      | .ok info =>
          (createBlockwiseResponseFromBlockSource codeContent options (.ofPayload payload) optionBlock2
            { info with size := min info.size choice }).toOption

/-- A block that a client may ask for. -/
structure Wanted (payload : List UInt8) (info : BlockInfo) : Prop where
  isSize : IsBlockSize info.size
  divides : info.size ∣ info.offset
  inside : info.offset < payload.length
  fits : payload.length ≤ 2 ^ 20 * info.size

/-- A response that carries the block at an offset, and tells whether it is the last one. -/
structure Carries (payload : List UInt8) (options : List MessageOption) (offset : Nat) (info : BlockInfo)
    (response : Content) : Prop where
  isContent : response.code = codeContent
  sameEtag : getOption response.options optionEtag = getOption options optionEtag
  isWanted : Wanted payload info
  isOffset : info.offset = offset
  tells : getBlockInfo response.options optionBlock2 0 = .ok info
  carries : response.payload = (payload.drop info.offset).take info.size
  more : info.more = true ↔ info.offset + info.size < payload.length

theorem Wanted.number_lt {payload : List UInt8} {info : BlockInfo} (wanted : Wanted payload info) :
    info.offset / info.size < 2 ^ 20 := by
  rw [Nat.div_lt_iff_lt_mul wanted.isSize.pos]
  exact Nat.lt_of_lt_of_le wanted.inside wanted.fits

/-- The server may take smaller blocks. -/
theorem Wanted.smaller {payload : List UInt8} {info : BlockInfo} (wanted : Wanted payload info) {choice : Nat}
    (isChoice : IsBlockSize choice) (fits : payload.length ≤ 2 ^ 20 * choice) :
    Wanted payload { info with size := min info.size choice } where
  isSize := wanted.isSize.min isChoice
  divides := Nat.dvd_trans ((wanted.isSize.min isChoice).dvd wanted.isSize (Nat.min_le_left _ _)) wanted.divides
  inside := wanted.inside
  fits := by
    have fits' := wanted.fits
    simp only
    omega

/-- A block option tells a wanted block as it is. -/
theorem Wanted.told {payload : List UInt8} {info : BlockInfo} (wanted : Wanted payload info) :
    ∃ value, info.toOptionValue = .ok value ∧ ∀ options default,
      getBlockInfo (⟨optionBlock2, .uint value⟩ :: options) optionBlock2 default = .ok info := by
  obtain ⟨value, isValue, told⟩ := BlockInfo.toOptionValue_spec wanted.isSize
  refine ⟨value, isValue, ?_⟩
  intro options default
  rw [BlockInfo.told_eq wanted.divides wanted.number_lt] at told
  simp only [getBlockInfo, getOption, List.find?_cons, decide_true, told]

/-- Whether there is more does not matter for a block that is wanted. -/
theorem Wanted.withMore {payload : List UInt8} {info : BlockInfo} (wanted : Wanted payload info) (more : Bool) :
    Wanted payload { info with more := more } :=
  ⟨wanted.isSize, wanted.divides, wanted.inside, wanted.fits⟩

/-- Asked for a block inside the payload, the server returns a part of the payload that begins
    there. -/
theorem createBlockwiseResponse_carries {payload : List UInt8} {info : BlockInfo} (wanted : Wanted payload info)
    (options : List MessageOption) :
    ∃ response more, createBlockwiseResponseFromBlockSource codeContent options (.ofPayload payload) optionBlock2 info =
        .ok response ∧
      Carries payload options info.offset { info with more := more } response := by
  have asked : (BlockSource.ofPayload payload).getDataSize info.offset info.size =
      .ok (if info.offset + info.size ≥ payload.length then payload.length - info.offset else info.size,
        !decide (info.offset + info.size ≥ payload.length)) := by
    rw [BlockSource.ofPayload_getDataSize, adjustAndGetChunkSize, if_neg (Nat.not_le.mpr wanted.inside)]
    split <;> simp_all
  obtain ⟨value, isValue, told⟩ :=
    (wanted.withMore (!decide (info.offset + info.size ≥ payload.length))).told
  refine ⟨_, !decide (info.offset + info.size ≥ payload.length),
    by simp only [createBlockwiseResponseFromBlockSource, asked, bind, Except.bind, isValue]; rfl, ?_⟩
  refine ⟨rfl, ?_, wanted.withMore _, rfl, told _ _, ?_, by simp⟩
  · simp only [getOption, List.find?_cons, show decide (optionBlock2 = optionEtag) = false from rfl]
  · simp only [BlockSource.ofPayload]
    split
    · rename_i last
      rw [List.take_of_length_le (by simp), List.take_of_length_le (by simp; omega)]
    · rfl

theorem blockServer_carries {payload : List UInt8} {options : List MessageOption} {choices : Nat → Nat}
    {requests : List SubRequest} {request : SubRequest} {info : BlockInfo} (isLast : requests.getLast? = some request)
    (asks : getBlockInfo request.options optionBlock2 (choices requests.length) = .ok info)
    (wanted : Wanted payload info) (isChoice : IsBlockSize (choices requests.length))
    (fits : payload.length ≤ 2 ^ 20 * choices requests.length) :
    ∃ response info', blockServer payload options choices requests = some response ∧
      Carries payload options info.offset info' response := by
  obtain ⟨response, more, creates, carries⟩ :=
    createBlockwiseResponse_carries (wanted.smaller isChoice fits) options
  refine ⟨response, _, ?_, carries⟩
  simp only [blockServer, isLast, asks, creates]
  rfl

/-! ## The client -/

/-- The bytes that the listener was given. -/
def deliveredBytes (log : List BlockEvent) : List UInt8 :=
  log.flatMap fun event =>
    match event with
    | .block _ payload => payload
    | .error _ => []

@[simp] theorem deliveredBytes_concat (log : List BlockEvent) (info : BlockInfo) (payload : List UInt8) :
    deliveredBytes (log ++ [BlockEvent.block info payload]) = deliveredBytes log ++ payload := by
  simp [deliveredBytes]

/-- The listener was given blocks, each where the one before it ended; all of them but the last
    one tell that there is more. -/
def Consecutive (log : List BlockEvent) (isLast : List BlockEvent → Prop) : Prop :=
  ∀ earlier event later, log = earlier ++ event :: later →
    ∃ info payload, event = .block info payload ∧ info.offset = (deliveredBytes earlier).length ∧
      (info.more = false ↔ isLast later)

/-- The listener was given the payload. -/
structure Downloaded (payload : List UInt8) (log : List BlockEvent) : Prop where
  whole : deliveredBytes log = payload
  consecutive : Consecutive log (· = [])

/-- A download that waits for its next block. -/
structure Downloading (payload : List UInt8) (options : List MessageOption) (transfer : Transfer)
    (context : RequestContext) : Prop where
  isGet : context.block1Active = false
  wants : context.wantsBlock2 = true
  runs : context.paused = false
  etag : context.etag = [] ∨ ∃ value, getOption options optionEtag = .ok value ∧ value.opaqueBytes = context.etag
  wanted : Wanted payload context.block2Info
  isPending : transfer.isPending = true
  asks : ∃ request, transfer.requests.getLast? = some request ∧
    ∀ default, getBlockInfo request.options optionBlock2 default = .ok context.block2Info
  fetched : deliveredBytes transfer.log = payload.take context.block2Info.offset
  consecutive : Consecutive transfer.log (fun _ => False)

theorem Consecutive.concat {log : List BlockEvent} {isLast : List BlockEvent → Prop} {info : BlockInfo}
    {payload : List UInt8} (consecutive : Consecutive log (fun _ => False)) (isOffset : info.offset = (deliveredBytes log).length)
    (last : info.more = false ↔ isLast []) (notLast : ∀ event later, ¬ isLast (later ++ [event])) :
    Consecutive (log ++ [BlockEvent.block info payload]) isLast := by
  intro earlier event later split
  rcases List.eq_nil_or_concat later with rfl | ⟨before, final, rfl⟩
  · obtain ⟨rfl, rfl⟩ := List.append_singleton_inj.mp split
    exact ⟨info, payload, rfl, isOffset, last⟩
  · rw [List.concat_eq_append, ← List.cons_append, ← List.append_assoc] at split
    obtain ⟨info', payload', isBlock, isOffset', last'⟩ :=
      consecutive earlier event before (List.append_singleton_inj.mp split).1
    refine ⟨info', payload', isBlock, isOffset', ?_⟩
    rw [List.concat_eq_append, last', false_iff]
    exact notLast final before

/-- The client asks for its next block. -/
theorem send_asks {payload : List UInt8} {options : List MessageOption} {transfer : Transfer} {context : RequestContext}
    (isGet : context.block1Active = false) (wants : context.wantsBlock2 = true) (runs : context.paused = false)
    (etag : context.etag = [] ∨ ∃ value, getOption options optionEtag = .ok value ∧ value.opaqueBytes = context.etag)
    (wanted : Wanted payload context.block2Info)
    (fetched : deliveredBytes transfer.log = payload.take context.block2Info.offset)
    (consecutive : Consecutive transfer.log (fun _ => False)) :
    ∃ transfer', transfer.sendBlockwiseRequest context .pending = .ok (transfer', .ok ()) ∧
      transfer'.context = some context ∧ Downloading payload options transfer' context := by
  obtain ⟨value, isValue, told⟩ := wanted.told
  have request : context.subRequest =
      .ok ⟨context.method, ⟨optionBlock2, .uint value⟩ :: (context.ifMatchOption ++ context.options), []⟩ := by
    simp [RequestContext.subRequest, RequestContext.block1Option, RequestContext.block2Option,
      RequestContext.blockPayload, isGet, wants, isValue]
  refine ⟨_, by rw [Transfer.sendBlockwiseRequest, if_neg (by simp [runs]), request]; rfl, rfl, ?_⟩
  exact ⟨isGet, wants, runs, etag, wanted, rfl, ⟨_, List.getLast?_concat, fun default => told _ default⟩, fetched,
    consecutive⟩

/-- The ETag of the responses is always the same, and never too long. -/
theorem checkEtag_same {options : List MessageOption} {context : RequestContext} {response : Content}
    (etag : context.etag = [] ∨ ∃ value, getOption options optionEtag = .ok value ∧ value.opaqueBytes = context.etag)
    (same : getOption response.options optionEtag = getOption options optionEtag)
    (short : ∀ value, getOption options optionEtag = .ok value → value.opaqueBytes.length ≤ maxEtagOptionSize) :
    ∃ etag, Transfer.checkEtag context response = .ok { context with etag := etag } ∧
      (etag = [] ∨ ∃ value, getOption options optionEtag = .ok value ∧ value.opaqueBytes = etag) := by
  unfold Transfer.checkEtag
  rw [same]
  cases found : getOption options optionEtag with
  | error error =>
      refine ⟨context.etag, rfl, etag.elim .inl ?_⟩
      rintro ⟨value, isValue, -⟩
      rw [found] at isValue
      exact nomatch isValue
  | ok value =>
      simp only
      rw [if_neg (Nat.not_lt.mpr (short value found))]
      split
      · rename_i known
        obtain ⟨value', isValue', same'⟩ := etag.resolve_left known
        rw [found] at isValue'
        obtain rfl := Except.ok.inj isValue'
        rw [if_neg (by simp [same'])]
        exact ⟨context.etag, rfl, .inr ⟨value, rfl, same'⟩⟩
      · exact ⟨value.opaqueBytes, rfl, .inr ⟨value, rfl, rfl⟩⟩

/-- The download is over, or it has come further than before. -/
def DownloadOk (payload : List UInt8) (options : List MessageOption) (least : Nat) (transfer : Transfer) : Prop :=
  transfer.context = none ∧ transfer.isPending = false ∧ Downloaded payload transfer.log ∨
    ∃ context, transfer.context = some context ∧ least ≤ context.block2Info.offset ∧
      Downloading payload options transfer context

/-- The client takes the block that it has asked for, and asks for the next one if there is one. -/
theorem onResponse_downloads {payload : List UInt8} {options : List MessageOption} {transfer : Transfer}
    {context : RequestContext} {response : Content} {info : BlockInfo}
    (short : ∀ value, getOption options optionEtag = .ok value → value.opaqueBytes.length ≤ maxEtagOptionSize)
    (isContext : transfer.context = some context) (downloading : Downloading payload options transfer context)
    (carries : Carries payload options context.block2Info.offset info response) :
    ∃ transfer', transfer.onResponse response [] .pending = .ok transfer' ∧
      DownloadOk payload options (context.block2Info.offset + 1) transfer' := by
  obtain ⟨etag, checks, etag'⟩ := checkEtag_same downloading.etag carries.sameEtag short
  have isBlock : Transfer.block2InfoOf { context with etag := etag, block1Active := false } response = .ok info := by
    simp only [Transfer.block2InfoOf, carries.tells, carries.isOffset, if_true]
  have fetched : deliveredBytes (transfer.log ++ [BlockEvent.block info response.payload]) =
      payload.take (info.offset + info.size) := by
    rw [deliveredBytes_concat, downloading.fetched, carries.carries, ← carries.isOffset, List.take_add]
  have isOffset : info.offset = (deliveredBytes transfer.log).length := by
    rw [downloading.fetched, List.length_take, carries.isOffset, Nat.min_eq_left (Nat.le_of_lt downloading.wanted.inside)]
  have notContinue : ¬ codeContent = codeContinue := by decide
  simp only [Transfer.onResponse, isContext, checks, carries.isContent, if_neg notContinue, Transfer.onFinalResponse,
    isBlock, Transfer.calls, List.foldlM_nil, pure_bind, Transfer.continueBlock2]
  cases isMore : info.more with
  | true =>
      have inside : info.offset + info.size < payload.length := carries.more.mp isMore
      have next : Wanted payload ⟨info.offset + info.size, info.size, false⟩ :=
        ⟨carries.isWanted.isSize, Nat.dvd_add carries.isWanted.divides (Nat.dvd_refl _), inside, carries.isWanted.fits⟩
      have consecutive : Consecutive (transfer.log ++ [BlockEvent.block info response.payload]) (fun _ => False) :=
        downloading.consecutive.concat isOffset (by simp [isMore]) (by simp)
      obtain ⟨transfer', sends, isContext', downloading'⟩ := @send_asks payload options
        { transfer with
          isPending := false
          context := some { context with etag := etag, block1Active := false }
          log := transfer.log ++ [BlockEvent.block info response.payload] }
        { context with
          etag := etag
          block1Active := false
          block2Active := true
          block2Info := ⟨info.offset + info.size, info.size, false⟩ }
        rfl rfl downloading.runs etag' next fetched consecutive
      refine ⟨transfer', by simp only [if_true, sends, ok_bind, isContext']; rfl, .inr ⟨_, isContext', ?_, downloading'⟩⟩
      have pos := carries.isWanted.isSize.pos
      rw [← carries.isOffset]
      exact Nat.add_le_add_left pos _
  | false =>
      have notInside : ¬ info.offset + info.size < payload.length := by
        rw [← carries.more, isMore]
        decide
      have consecutive : Consecutive (transfer.log ++ [BlockEvent.block info response.payload]) (· = []) :=
        downloading.consecutive.concat isOffset (by simp [isMore]) (by simp)
      rw [List.take_of_length_le (Nat.not_lt.mp notInside)] at fetched
      exact ⟨_, rfl, .inl ⟨rfl, rfl, fetched, consecutive⟩⟩

/-! ## End to end -/

section

variable {payload : List UInt8} {options : List MessageOption} {choices : Nat → Nat}
  (short : ∀ value, getOption options optionEtag = .ok value → value.opaqueBytes.length ≤ maxEtagOptionSize)
  (areSizes : ∀ index, IsBlockSize (choices index)) (fits : ∀ index, payload.length ≤ 2 ^ 20 * choices index)

include short areSizes fits

theorem turn_downloads {transfer : Transfer} {least : Nat} (downloads : DownloadOk payload options least transfer) :
    ∃ transfer', transfer.turn (blockServer payload options choices) .quiet = .ok transfer' ∧
      DownloadOk payload options (least + 1) transfer' := by
  rcases downloads with ⟨gone, notPending, downloaded⟩ | ⟨context, isContext, further, downloading⟩
  · refine ⟨transfer, ?_, .inl ⟨gone, notPending, downloaded⟩⟩
    simp only [Transfer.turn, Turn.quiet, Transfer.calls, List.foldlM_nil, pure_bind, notPending]
    rfl
  · obtain ⟨request, isLast, asks⟩ := downloading.asks
    obtain ⟨response, info, answers, carries⟩ :=
      blockServer_carries isLast (asks _) downloading.wanted (areSizes _) (fits _)
    obtain ⟨transfer', responds, downloads'⟩ := onResponse_downloads short isContext downloading carries
    refine ⟨transfer', ?_, ?_⟩
    · simp only [Transfer.turn, Turn.quiet, Transfer.calls, List.foldlM_nil, pure_bind, downloading.isPending, answers]
      exact responds
    · rcases downloads' with ended | ⟨context', isContext', further', downloading'⟩
      · exact .inl ended
      · exact .inr ⟨context', isContext', Nat.le_trans (Nat.succ_le_succ further) further', downloading'⟩

theorem turns_download {transfer : Transfer} (downloads : DownloadOk payload options 0 transfer) (count : Nat) :
    ∃ transfer', transfer.turns (blockServer payload options choices) (fun _ => .quiet) count = .ok transfer' ∧
      DownloadOk payload options count transfer' := by
  induction count with
  | zero => exact ⟨transfer, rfl, downloads⟩
  | succ count ih =>
      obtain ⟨transfer', runs, downloads'⟩ := ih
      obtain ⟨transfer'', turns, downloads''⟩ := turn_downloads short areSizes fits downloads'
      refine ⟨transfer'', ?_, downloads''⟩
      rw [Transfer.turns, runs, ok_bind, turns]

end

theorem send_downloads {payload : List UInt8} {preferredBlockSize : Nat} (notEmpty : payload ≠ [])
    (isSize : IsBlockSize preferredBlockSize) (fits : payload.length ≤ 2 ^ 20 * preferredBlockSize)
    (requestOptions options : List MessageOption) :
    ∃ transfer, Transfer.send .get requestOptions none preferredBlockSize .pending = .ok (transfer, .ok ()) ∧
      DownloadOk payload options 0 transfer := by
  have notZero : preferredBlockSize ≠ 0 := Nat.ne_of_gt isSize.pos
  have isContext := Transfer.initialContext_get requestOptions preferredBlockSize
  rw [if_pos notZero] at isContext
  have wanted : Wanted payload ⟨0, preferredBlockSize, false⟩ :=
    ⟨isSize, Nat.dvd_zero _, List.length_pos_of_ne_nil notEmpty, fits⟩
  obtain ⟨transfer, sends, hasContext, downloading⟩ := @send_asks payload options ⟨none, false, [], []⟩
    (Transfer.initialContext .get requestOptions none preferredBlockSize)
    (by rw [isContext]) (by rw [isContext]; simp [RequestContext.wantsBlock2, notZero]) (by rw [isContext])
    (by rw [isContext]; exact .inl rfl) (by rw [isContext]; exact wanted) (by rw [isContext]; rfl)
    (by intro earlier event later split; simp at split)
  exact ⟨transfer, Transfer.send_ok (by simp) sends hasContext, .inr ⟨_, hasContext, Nat.zero_le _, downloading⟩⟩

/-- A download from a server of blocks ends, whatever block sizes the server chooses on the way,
    and the listener is given the payload in consecutive blocks. -/
theorem downloaded_of_blockServer (payload : List UInt8) (preferredBlockSize : Nat) (choices : Nat → Nat)
    (requestOptions options : List MessageOption) (notEmpty : payload ≠ []) (isSize : IsBlockSize preferredBlockSize)
    (areSizes : ∀ index, IsBlockSize (choices index)) (fits : payload.length ≤ 2 ^ 20 * preferredBlockSize)
    (fits' : ∀ index, payload.length ≤ 2 ^ 20 * choices index)
    (short : ∀ value, getOption options optionEtag = .ok value → value.opaqueBytes.length ≤ maxEtagOptionSize) :
    ∃ first transfer, Transfer.send .get requestOptions none preferredBlockSize .pending = .ok (first, .ok ()) ∧
      first.turns (blockServer payload options choices) (fun _ => .quiet) payload.length = .ok transfer ∧
      transfer.context = none ∧ Downloaded payload transfer.log := by
  obtain ⟨first, sends, downloads⟩ := send_downloads notEmpty isSize fits requestOptions options
  obtain ⟨transfer, runs, downloads'⟩ := turns_download short areSizes fits' downloads payload.length
  refine ⟨first, transfer, sends, runs, ?_⟩
  rcases downloads' with ⟨gone, -, downloaded⟩ | ⟨context, -, further, downloading⟩
  · exact ⟨gone, downloaded⟩
  · -- every turn but the last one has brought a byte
    exact absurd downloading.wanted.inside (Nat.not_lt.mpr further)

/-- A server that changes to blocks of 16 bytes after the first one. -/
def shrinkingChoices (index : Nat) : Nat := if index ≤ 1 then 64 else 16

theorem downloaded_shrinkingChoices :
    ∃ first transfer, Transfer.send .get [] none 32 .pending = .ok (first, .ok ()) ∧
      first.turns (blockServer (List.replicate 75 7) [] shrinkingChoices) (fun _ => .quiet) 75 = .ok transfer ∧
      transfer.context = none ∧ Downloaded (List.replicate 75 7) transfer.log := by
  refine downloaded_of_blockServer (List.replicate 75 7) 32 shrinkingChoices [] [] (by decide) ⟨1, by decide, rfl⟩ ?_
    (by decide) ?_ (fun _ found => (nomatch found))
  · intro index
    unfold shrinkingChoices
    split
    · exact ⟨2, by decide, rfl⟩
    · exact ⟨0, by decide, rfl⟩
  · intro index
    unfold shrinkingChoices
    split <;> decide

end GoldenGate.Coap
