import GoldenGate.Coap.BlockwiseContexts
import GoldenGate.Coap.BlockwiseRuns

/-! # Responses and the payload source

A request may have no payload source. No response makes the client ask for its data, and a response that
does not fit the request is reported as an error, apart from 2.31 responses with a BLOCK1 option: these
are taken as acknowledgments, whatever the client has sent.
-/

namespace GoldenGate.Coap

open Memory

/-! ## Responses that fit -/

/-- An ETag is not too long, and it is that of the responses before. -/
def EtagFits (context : RequestContext) (response : Content) : Prop :=
  ∀ value, getOption response.options optionEtag = .ok value →
    value.opaqueBytes.length ≤ maxEtagOptionSize ∧ (context.etag = [] ∨ context.etag = value.opaqueBytes)

/-- The block that was sent last is not the last one of an upload, and the response names it, by its number
    or, with another block size, by its offset. -/
def Acknowledges (context : RequestContext) (response : Content) : Prop :=
  context.source.isSome = true ∧ context.block1Active = true ∧ context.block1Info.more = true ∧
    ∃ info, getBlockInfo response.options optionBlock1 0 = .ok info ∧
      (info.offset / info.size = context.block1Info.offset / context.block1Info.size ∨ info.offset = context.block1Info.offset)

/-- The response has the block that was asked for, or it is the whole one. -/
def HasBlock (context : RequestContext) (response : Content) : Prop :=
  match getBlockInfo response.options optionBlock2 0 with
  | .ok info => info.offset = context.block2Info.offset
  | .error error => error = .noSuchItem ∧ context.block2Info.offset = 0

/-- What a server may say to the last sub-request. -/
def FitsRequest (context : RequestContext) (response : Content) : Prop :=
  EtagFits context response ∧
    if response.code = codeContinue then Acknowledges context response else HasBlock context response

/-- A 2.31 response that is not refused anyway, for its ETag, for its BLOCK1 option or since the source has no
    data for the next block, acknowledges the block that was sent. -/
def MayContinue (context : RequestContext) (response : Content) : Prop :=
  response.code = codeContinue → EtagFits context response →
    ∀ info, getBlockInfo response.options optionBlock1 0 = .ok info → Acknowledges context response ∨
      ∃ source, context.source = some source ∧ ∃ error, (BlockwiseClient.nextBlock1 context info).sized source = .error error

theorem etagFits_of_checkEtag {context context' : RequestContext} {response : Content}
    (checks : Transfer.checkEtag context response = .ok context') : EtagFits context response := by
  intro value isValue
  unfold Transfer.checkEtag at checks
  rw [isValue] at checks
  dsimp only at checks
  split at checks
  · exact nomatch checks
  · rename_i short
    refine ⟨Nat.le_of_not_lt short, ?_⟩
    by_cases first : context.etag = []
    · exact .inl first
    · rw [if_pos first] at checks
      split at checks
      · exact nomatch checks
      · rename_i same
        exact .inr (not_not.mp same)

/-- A response without the block that was asked for is refused. -/
theorem block2InfoOf_unfit {context : RequestContext} {response : Content} (unfit : ¬ HasBlock context response) :
    ∃ error, Transfer.block2InfoOf context response = .error error := by
  unfold HasBlock at unfit
  unfold Transfer.block2InfoOf
  cases isInfo : getBlockInfo response.options optionBlock2 0 with
  | ok info =>
      rw [isInfo] at unfit
      exact ⟨_, if_neg unfit⟩
  | error error =>
      rw [isInfo] at unfit
      exact ⟨_, if_neg unfit⟩

/-- What the source says does not depend on the ETag. -/
theorem sized_etag {context : RequestContext} {source : BlockSource} {etag : List UInt8} {error : Error}
    (isError : context.sized source = .error error) : ({ context with etag := etag } : RequestContext).sized source = .error error := by
  unfold RequestContext.sized at isError ⊢
  dsimp only at isError ⊢
  cases isSize : source.getDataSize context.block1Info.offset context.block1Info.size with
  | error refusal =>
      rw [isSize] at isError
      exact congrArg Except.error (Except.error.inj isError)
  | ok size =>
      rw [isSize] at isError
      exact nomatch isError

/-- The source has no data for the next block. -/
theorem onContinueResponse_refused {transfer : Transfer} {context : RequestContext} {response : Content} {info : BlockInfo}
    {source : BlockSource} {error : Error} (isInfo : getBlockInfo response.options optionBlock1 0 = .ok info)
    (isSource : context.source = some source)
    (isError : (BlockwiseClient.nextBlock1 context info).sized source = .error error) (result : SendResult) :
    transfer.onContinueResponse context response result = .ok (transfer.notifyErrorAndTerminate error) := by
  cases context
  subst isSource
  unfold Transfer.onContinueResponse
  rw [isInfo]
  dsimp only
  dsimp only [BlockwiseClient.nextBlock1] at isError
  rw [isError]
  rfl

/-- A response that does not fit ends the request with an error. -/
theorem onResponse_unfit {transfer : Transfer} {context : RequestContext} {response : Content}
    (isContext : transfer.context = some context) (unfit : ¬ FitsRequest context response)
    (may : MayContinue context response) (reactions : List BlockwiseCall) (result : SendResult) :
    ∃ error, transfer.onResponse response reactions result =
      .ok ({ transfer with isPending := false }.notifyErrorAndTerminate error) := by
  unfold Transfer.onResponse
  rw [isContext]
  dsimp only
  cases checks : Transfer.checkEtag context response with
  | error error => exact ⟨error, rfl⟩
  | ok context' =>
      have etagFits := etagFits_of_checkEtag checks
      obtain ⟨etag, rfl⟩ := Transfer.checkEtag_ok checks
      dsimp only
      by_cases isContinue : response.code = codeContinue
      · rw [if_pos isContinue]
        cases isInfo : getBlockInfo response.options optionBlock1 0 with
        | error error =>
            unfold Transfer.onContinueResponse
            rw [isInfo]
            exact ⟨_, rfl⟩
        | ok info =>
            have notAcknowledged : ¬ Acknowledges context response := by
              intro acknowledges
              exact unfit ⟨etagFits, (if_pos isContinue).mpr acknowledges⟩
            obtain acknowledges | ⟨source, isSource, error, isError⟩ := may isContinue etagFits info isInfo
            · exact absurd acknowledges notAcknowledged
            · have isError' : (BlockwiseClient.nextBlock1 { context with etag := etag } info).sized source = .error error :=
                sized_etag isError
              exact ⟨error, @onContinueResponse_refused _ { context with etag := etag } _ _ _ _ isInfo isSource isError' result⟩
      · rw [if_neg isContinue]
        unfold Transfer.onFinalResponse
        have noBlock : ¬ HasBlock { context with etag := etag, block1Active := false } response := by
          intro hasBlock
          exact unfit ⟨etagFits, (if_neg isContinue).mpr hasBlock⟩
        obtain ⟨error, isError⟩ := block2InfoOf_unfit noBlock
        dsimp only
        rw [isError]
        exact ⟨error, rfl⟩

/-! ## The payload -/

/-- A request without a payload source has no payload. -/
def Transfer.Sourced (transfer : Transfer) : Prop :=
  ∀ context, transfer.context = some context → context.source = none → context.block1PayloadSize = 0

/-- No source is asked that is not there, now and later. -/
def AsksSource (result : Access Transfer) : Prop :=
  result ≠ .error .assertion ∧ ∀ transfer, result = .ok transfer → transfer.Sourced

namespace AsksSource

theorem of_ok {transfer : Transfer} (sourced : transfer.Sourced) : AsksSource (.ok transfer) :=
  ⟨nofun, fun _ isOk => Except.ok.inj isOk ▸ sourced⟩

theorem of_undefined : AsksSource (.error .undefined) :=
  ⟨fun same => (by cases same), fun _ isOk => (by cases isOk)⟩

/-- A request that is gone. -/
theorem of_none {transfer : Transfer} (gone : transfer.context = none) : AsksSource (.ok transfer) :=
  of_ok fun context isContext => by rw [gone] at isContext; exact nomatch isContext

theorem bind {result : Access Transfer} (asks : AsksSource result) {next : Transfer → Access Transfer}
    (goesOn : ∀ transfer, transfer.Sourced → AsksSource (next transfer)) : AsksSource (result >>= next) := by
  cases result with
  | error fault => exact ⟨fun isFault => asks.1 isFault, fun _ isOk => nomatch isOk⟩
  | ok transfer => exact goesOn transfer (asks.2 transfer rfl)

theorem block1Option {context : RequestContext} {fault : Fault} (fails : context.block1Option = .error fault) :
    fault = .undefined := by
  unfold RequestContext.block1Option at fails
  split at fails
  · split at fails
    · exact nomatch fails
    · exact (Except.error.inj fails).symm
  · exact nomatch fails

theorem block2Option {context : RequestContext} {value : Option UInt32} {fault : Fault}
    (fails : context.block2Option value = .error fault) : fault = .undefined := by
  unfold RequestContext.block2Option at fails
  split at fails
  · split at fails
    · exact nomatch fails
    · exact nomatch fails
    · exact (Except.error.inj fails).symm
  · exact nomatch fails

theorem subRequest {context : RequestContext} (noSource : context.source = none → context.block1PayloadSize = 0)
    {fault : Fault} (fails : context.subRequest = .error fault) : fault = .undefined := by
  obtain ⟨payload, isPayload⟩ := RequestContext.blockPayload_ok noSource
  unfold RequestContext.subRequest at fails
  rw [isPayload] at fails
  cases isBlock1 : context.block1Option with
  | error fault' =>
      rw [isBlock1] at fails
      exact (Except.error.inj fails).symm.trans (block1Option isBlock1)
  | ok block1 =>
      obtain ⟨options, value⟩ := block1
      rw [isBlock1, ok_bind] at fails
      dsimp only at fails
      cases isBlock2 : context.block2Option value with
      | error fault' =>
          rw [isBlock2] at fails
          exact (Except.error.inj fails).symm.trans (block2Option isBlock2)
      | ok block2 =>
          rw [isBlock2] at fails
          exact nomatch fails

/-- A sub-request is sent, and something follows. -/
theorem sending (transfer : Transfer) {context : RequestContext} (result : SendResult)
    (noSource : context.source = none → context.block1PayloadSize = 0)
    {next : Transfer × Except Error Unit → Access Transfer} (goesOn : ∀ sent, sent.1.Sourced → AsksSource (next sent)) :
    AsksSource (transfer.sendBlockwiseRequest context result >>= next) := by
  have sourced : ∀ transfer' : Transfer, transfer'.context = some context → transfer'.Sourced := by
    intro transfer' isContext context' isContext'
    rw [← Option.some.inj (isContext.symm.trans isContext')]
    exact noSource
  unfold Transfer.sendBlockwiseRequest
  split
  · exact goesOn _ (sourced _ rfl)
  · cases isRequest : context.subRequest with
    | error fault =>
        rw [subRequest noSource isRequest]
        exact of_undefined
    | ok request =>
        cases result with
        | pending => exact goesOn _ (sourced _ rfl)
        | failed error => exact goesOn _ (sourced _ rfl)
        | reported error => exact goesOn _ fun _ isContext => nomatch isContext

theorem notifyErrorAndTerminate (transfer : Transfer) (error : Error) :
    AsksSource (.ok (transfer.notifyErrorAndTerminate error)) := of_none rfl

theorem call {transfer : Transfer} (sourced : transfer.Sourced) (call : BlockwiseCall) : AsksSource (transfer.call call) := by
  unfold Transfer.call
  cases isContext : transfer.context with
  | none => exact of_ok sourced
  | some context =>
      cases call with
      | pause =>
          apply of_ok
          intro context' isContext'
          rw [← Option.some.inj isContext']
          exact sourced context isContext
      | resume result =>
          dsimp only
          split
          · exact sending transfer result (sourced context isContext) fun sent sourced => of_ok sourced
          · exact of_ok sourced
      | cancel => exact of_none rfl

theorem calls {transfer : Transfer} (sourced : transfer.Sourced) (calls : List BlockwiseCall) :
    AsksSource (transfer.calls calls) := by
  induction calls generalizing transfer with
  | nil => exact of_ok sourced
  | cons call calls ih =>
      unfold Transfer.calls
      rw [List.foldlM_cons]
      exact (AsksSource.call sourced call).bind fun next sourced => ih sourced

theorem continueBlock2 {transfer : Transfer} {context : RequestContext} (info : BlockInfo) (result : SendResult)
    (noSource : context.source = none → context.block1PayloadSize = 0) :
    AsksSource (transfer.continueBlock2 context info result) := by
  unfold Transfer.continueBlock2
  split
  · refine sending transfer result (by exact noSource) fun sent sourced => ?_
    dsimp only
    cases isContext : sent.1.context with
    | none => exact of_undefined
    | some context' => exact of_ok sourced
  · exact of_none rfl

theorem onFinalResponse {transfer : Transfer} {context : RequestContext} (response : Content)
    (reactions : List BlockwiseCall) (result : SendResult)
    (noSource : context.source = none → context.block1PayloadSize = 0) :
    AsksSource (transfer.onFinalResponse context response reactions result) := by
  unfold Transfer.onFinalResponse
  dsimp only
  split
  · exact notifyErrorAndTerminate transfer _
  · rename_i info isInfo
    have told : Transfer.Sourced { transfer with
        context := some { context with block1Active := false }, log := transfer.log ++ [BlockEvent.block info response.payload] } := by
      intro context' isContext'
      rw [← Option.some.inj isContext']
      exact noSource
    refine (calls told reactions).bind fun next sourced => ?_
    split
    · exact of_ok sourced
    · rename_i context' isContext'
      exact continueBlock2 info result (sourced context' isContext')

theorem onContinueResponse {transfer : Transfer} {context : RequestContext} {response : Content} (result : SendResult)
    (hasSource : ∀ info, getBlockInfo response.options optionBlock1 0 = .ok info → context.source.isSome = true) :
    AsksSource (transfer.onContinueResponse context response result) := by
  unfold Transfer.onContinueResponse
  cases isInfo : getBlockInfo response.options optionBlock1 0 with
  | error error => exact notifyErrorAndTerminate transfer _
  | ok info =>
      obtain ⟨source, isSource⟩ := Option.isSome_iff_exists.mp (hasSource info isInfo)
      cases context
      subst isSource
      dsimp only
      split
      · exact notifyErrorAndTerminate transfer _
      · rename_i context sized
        refine sending transfer result ?_ fun sent sourced => of_ok sourced
        intro noSource
        unfold RequestContext.sized at sized
        split at sized
        · exact nomatch sized
        · rw [← Except.ok.inj sized] at noSource
          exact nomatch noSource

theorem onResponse {transfer : Transfer} (sourced : transfer.Sourced) {response : Content} (reactions : List BlockwiseCall)
    (result : SendResult) (may : ∀ context, transfer.context = some context → MayContinue context response) :
    AsksSource (transfer.onResponse response reactions result) := by
  unfold Transfer.onResponse
  cases isContext : transfer.context with
  | none => exact of_ok sourced
  | some context =>
      dsimp only
      cases checks : Transfer.checkEtag context response with
      | error error => exact notifyErrorAndTerminate _ error
      | ok context' =>
          have etagFits := etagFits_of_checkEtag checks
          obtain ⟨etag, rfl⟩ := Transfer.checkEtag_ok checks
          dsimp only
          split
          · rename_i isContinue
            apply onContinueResponse
            intro info isInfo
            rcases may context isContext isContinue etagFits info isInfo with acknowledges | ⟨source, isSource, -⟩
            · exact acknowledges.1
            · exact Option.isSome_iff_exists.mpr ⟨source, isSource⟩
          · exact onFinalResponse response reactions result (sourced context isContext)

end AsksSource

/-! ## Runs -/

namespace BlockwiseRun

/-- No source is asked that is not there, and a response that does not fit is reported as an error. -/
def Answers (self : BlockwiseRun) (step : BlockwiseStep) : Prop :=
  self.step step ≠ .error .assertion ∧
    match step with
    | .response content _ _ => self.transfer.isPending = true → ∀ context, self.transfer.context = some context →
        ¬ FitsRequest context content → ∃ next error, self.step step = .ok next ∧
          next.transfer.log = self.transfer.log ++ [BlockEvent.error error] ∧ next.transfer.context = none
    | .call _ | .error _ => True

/-- All the steps of a run are answered. -/
def AllAnswered (self : BlockwiseRun) : List BlockwiseStep → Prop
  | [] => True
  | step :: steps => self.Answers step ∧ ∀ next, self.step step = .ok next → next.AllAnswered steps

/-- A response to a pending sub-request may continue it, or it does not try. -/
def MayAnswer (self : BlockwiseRun) : BlockwiseStep → Prop
  | .response content _ _ => self.transfer.isPending = true → ∀ context, self.transfer.context = some context →
      MayContinue context content
  | .call _ | .error _ => True

def AllMayAnswer (self : BlockwiseRun) : List BlockwiseStep → Prop
  | [] => True
  | step :: steps => self.MayAnswer step ∧ ∀ next, self.step step = .ok next → next.AllMayAnswer steps

theorem asks_step {result : Access Transfer} (asks : AsksSource result) (paused : Transfer → Bool) :
    (result >>= fun transfer => (.ok ⟨transfer, paused transfer⟩ : Access BlockwiseRun)) ≠ .error .assertion ∧
      ∀ next : BlockwiseRun, (result >>= fun transfer => (.ok ⟨transfer, paused transfer⟩ : Access BlockwiseRun)) = .ok next →
        next.transfer.Sourced := by
  cases result with
  | error fault =>
      exact ⟨fun isFault => asks.1 (congrArg Except.error (Except.error.inj isFault)), fun _ isNext => (by cases isNext)⟩
  | ok transfer =>
      refine ⟨fun isFault => (by cases isFault), fun next isNext => ?_⟩
      rw [← Except.ok.inj isNext]
      exact asks.2 transfer rfl

theorem answers_step {state : BlockwiseRun} (sourced : state.transfer.Sourced) {step : BlockwiseStep}
    (may : state.MayAnswer step) :
    state.Answers step ∧ ∀ next, state.step step = .ok next → next.transfer.Sourced := by
  cases step with
  | call call =>
      obtain ⟨asks, keeps⟩ := asks_step (AsksSource.call sourced call) fun _ => pausedAfter state.paused [call]
      exact ⟨⟨asks, trivial⟩, keeps⟩
  | response content reactions result =>
      cases isPending : state.transfer.isPending with
      | false =>
          have same : state.step (.response content reactions result) = .ok state := by
            rw [BlockwiseRun.step, if_neg (by rw [isPending]; exact Bool.false_ne_true)]
            rfl
          unfold Answers
          rw [same]
          refine ⟨⟨fun same => (by cases same), fun pending => ?_⟩, fun next isNext => Except.ok.inj isNext ▸ sourced⟩
          rw [isPending] at pending
          cases pending
      | true =>
          have responds : state.step (.response content reactions result) =
              state.transfer.onResponse content reactions result >>= fun transfer => .ok ⟨transfer,
                if content.code = codeContinue then state.paused else pausedAfter state.paused reactions⟩ := by
            rw [BlockwiseRun.step, if_pos isPending]
            rfl
          have mayContinue := may isPending
          obtain ⟨asks, keeps⟩ := asks_step (AsksSource.onResponse sourced reactions result mayContinue) fun _ =>
            if content.code = codeContinue then state.paused else pausedAfter state.paused reactions
          unfold Answers
          rw [responds]
          refine ⟨⟨asks, fun _ context isContext unfit => ?_⟩, keeps⟩
          obtain ⟨error, ends⟩ := onResponse_unfit isContext unfit (mayContinue context isContext) reactions result
          rw [ends]
          exact ⟨_, error, rfl, rfl, rfl⟩
  | error error =>
      refine ⟨⟨fun same => (by cases same), trivial⟩, fun next isNext => ?_⟩
      rw [← Except.ok.inj isNext]
      split
      · unfold Transfer.onError
        split
        · exact sourced
        · exact fun _ isContext => by cases isContext
      · exact sourced

theorem answers_run {state : BlockwiseRun} (sourced : state.transfer.Sourced) {steps : List BlockwiseStep}
    (may : state.AllMayAnswer steps) : state.AllAnswered steps := by
  induction steps generalizing state with
  | nil => exact trivial
  | cons step steps ih =>
      obtain ⟨answers, keeps⟩ := answers_step sourced may.1
      exact ⟨answers, fun next isNext => ih (keeps next isNext) (may.2 next isNext)⟩

end BlockwiseRun

/-- The first sub-request of a request whose method may have a payload source. -/
theorem send_asksSource {method : Method} {source : Option BlockSource} (allowed : ¬ (source.isSome ∧ method ≠ .put ∧ method ≠ .post))
    (options : List MessageOption) (preferredBlockSize : Nat) (result : SendResult) :
    Transfer.send method options source preferredBlockSize result ≠ .error .assertion := by
  have initial := Transfer.initialContext_spec method options source preferredBlockSize
  have asks := AsksSource.sending ⟨none, false, [], []⟩ result
    (fun noSource => initial.noSource (initial.isSource.symm.trans noSource)) fun sent sourced => AsksSource.of_ok sourced
  unfold Transfer.send
  rw [assert_of allowed, ok_bind]
  cases sends : Transfer.sendBlockwiseRequest ⟨none, false, [], []⟩
      (Transfer.initialContext method options source preferredBlockSize) result with
  | error fault =>
      rw [sends] at asks
      exact fun isFault => asks.1 (congrArg Except.error (Except.error.inj isFault))
  | ok sent =>
      obtain ⟨transfer, answer⟩ := sent
      cases answer with
      | error error => exact nofun
      | ok _ =>
          rw [ok_bind]
          dsimp only
          cases transfer.context with
          | none => exact nofun
          | some context => exact nofun

/-- A request never asks a payload source that is not there, and it reports each response that does not fit, as
    long as 2.31 responses with a BLOCK1 option acknowledge what was sent. -/
theorem payload_source_present (method : Method) (options : List MessageOption) (source : Option BlockSource)
    (allowed : ¬ (source.isSome ∧ method ≠ .put ∧ method ≠ .post)) (preferredBlockSize : Nat) (result : SendResult) :
    Transfer.send method options source preferredBlockSize result ≠ .error .assertion ∧
      ∀ transfer, Transfer.send method options source preferredBlockSize result = .ok (transfer, .ok ()) →
        ∀ steps, BlockwiseRun.AllMayAnswer ⟨transfer, false⟩ steps → BlockwiseRun.AllAnswered ⟨transfer, false⟩ steps := by
  refine ⟨send_asksSource allowed options preferredBlockSize result, fun transfer sends steps may => ?_⟩
  refine BlockwiseRun.answers_run ?_ may
  obtain ⟨-, request, rfl⟩ := Transfer.sends_of_send sends
  intro context isContext noSource
  rw [← Option.some.inj isContext] at noSource ⊢
  have initial := Transfer.initialContext_spec method options source preferredBlockSize
  exact initial.noSource (initial.isSource.symm.trans noSource)

/-- A request without a source that is told to continue without a BLOCK1 option. -/
theorem payload_source_present_post : ∃ transfer, Transfer.send .post [] none 0 .pending = .ok (transfer, .ok ()) ∧
    BlockwiseRun.AllAnswered ⟨transfer, false⟩ [.response ⟨codeContinue, [], []⟩ [] .pending] := by
  refine ⟨_, rfl, (payload_source_present .post [] none (by decide) 0 .pending).2 _ rfl _ ⟨?_, fun _ _ => trivial⟩⟩
  intro _ context _ _ _ info isInfo
  exact nomatch isInfo

/-- A request without a source is told to continue. -/
theorem absent_source_asked : ∃ transfer, Transfer.send .post [] none 0 .pending = .ok (transfer, .ok ()) ∧
    BlockwiseRun.step ⟨transfer, false⟩ (.response ⟨codeContinue, [⟨optionBlock1, .uint 6⟩], []⟩ [] .pending) =
      .error .assertion := ⟨_, rfl, rfl⟩

end GoldenGate.Coap
