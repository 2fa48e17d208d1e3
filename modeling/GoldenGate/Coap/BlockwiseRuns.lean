import GoldenGate.Coap.Pausing

/-! # Runs of a blockwise request

A request that lives until its last event: between two events it waits for a sub-request, or it
is paused. This needs an endpoint that takes the sub-requests, since nobody looks at what
becomes of the later ones, and an application that does not resume what it has paused.
-/

namespace GoldenGate.Coap

open Memory

/-- An event that is the last one of its request. -/
def BlockEvent.Terminal : BlockEvent → Prop
  | .block info _ => info.more = false
  | .error _ => True

/-- What happens to a request: the application calls, or the endpoint has a response or an error
    for the pending sub-request. -/
inductive BlockwiseStep where
  | call (call : BlockwiseCall)
  | response (content : Content) (reactions : List BlockwiseCall) (result : SendResult)
  | error (error : Error)
  deriving Repr, DecidableEq

/-- A request, and whether the application has paused it and not resumed it since. -/
structure BlockwiseRun where
  transfer : Transfer
  paused : Bool

/-- Whether the application has a request paused after some calls. -/
def pausedAfter (paused : Bool) (calls : List BlockwiseCall) : Bool :=
  calls.foldl (fun paused call =>
    match call with
    | .pause => true
    | .resume _ => false
    | .cancel => paused) paused

namespace BlockwiseRun

/-- Responses and errors are for pending sub-requests. A response to continue is not shown to the
    listener. -/
def step (self : BlockwiseRun) : BlockwiseStep → Access BlockwiseRun
  | .call call => do
      let transfer ← self.transfer.call call
      return ⟨transfer, pausedAfter self.paused [call]⟩
  | .response content reactions result =>
      if self.transfer.isPending then do
        let transfer ← self.transfer.onResponse content reactions result
        return ⟨transfer, if content.code = codeContinue then self.paused else pausedAfter self.paused reactions⟩
      else return self
  | .error error => return if self.transfer.isPending then { self with transfer := self.transfer.onError error } else self

def run (self : BlockwiseRun) (steps : List BlockwiseStep) : Access BlockwiseRun := steps.foldlM step self

/-- The request has told its listener how it ended, once, and is gone; or it is paused; or a
    sub-request is pending. -/
def Settled (self : BlockwiseRun) : Prop :=
  (self.transfer.context = none ∧
      ∃ (earlier : List BlockEvent) (last : BlockEvent), self.transfer.log = earlier ++ [last] ∧ last.Terminal ∧ ∀ event ∈ earlier, ¬ event.Terminal) ∨
    self.transfer.context.isSome ∧ (∀ event ∈ self.transfer.log, ¬ event.Terminal) ∧
      (self.paused = true ∨ self.transfer.isPending = true)

end BlockwiseRun

/-! ## When a request ends -/

/-- The calls leave the request where it is and do not resume it when it is paused. -/
def neverResumed : Bool → List BlockwiseCall → Bool
  | _, [] => true
  | _, .pause :: calls => neverResumed true calls
  | paused, .resume _ :: calls => !paused && neverResumed paused calls
  | _, .cancel :: _ => false

/-- What is asked of a response and of what the endpoint makes of the sub-request that follows it:
    it is accepted, or, after a response to continue, it fails with a report. Only a request with
    a payload source is told to continue. -/
def Taken (context : RequestContext) (content : Content) (result : SendResult) : Prop :=
  if content.code = codeContinue then
    (∀ error, result ≠ .failed error) ∧
      (context.source.isSome ∨ ∃ error, getBlockInfo content.options optionBlock1 0 = .error error)
  else result = .pending

namespace BlockwiseRun

def MayTake (self : BlockwiseRun) : BlockwiseStep → Prop
  | .call call => neverResumed self.paused [call] = true
  | .response content reactions result =>
      neverResumed self.paused reactions = true ∧
        ∀ context, self.transfer.context = some context → Taken context content result
  | .error _ => True

def Permits (self : BlockwiseRun) : List BlockwiseStep → Prop
  | [] => True
  | step :: steps => self.MayTake step ∧ ∀ self', self.step step = .ok self' → self'.Permits steps

end BlockwiseRun

/-! ## The invariant -/

/-- What a living context needs to make its next sub-request. -/
structure RequestContext.Ready (context : RequestContext) : Prop where
  block1 : context.block1Active = true → IsBlockSize context.block1Info.size
  block2 : context.block1Active = false → context.source.isSome → IsBlockSize context.block2Info.size
  noSource : context.source = none → context.block1PayloadSize = 0

/-- A request between two events. -/
def BlockwiseRun.Valid (state : BlockwiseRun) : Prop :=
  state.Settled ∧ ∀ context, state.transfer.context = some context → context.Ready ∧ context.paused = state.paused

/-- The listener is told that the request has failed. -/
theorem valid_error {transfer : Transfer} (goesOn : ∀ event ∈ transfer.log, ¬ event.Terminal) (error : Error)
    (paused : Bool) : BlockwiseRun.Valid ⟨transfer.notifyErrorAndTerminate error, paused⟩ :=
  ⟨.inl ⟨rfl, transfer.log, .error error, rfl, trivial, goesOn⟩, fun _ none => (nomatch none)⟩

/-- The next sub-request is pending, or the request is paused, or the endpoint has reported that it
    cannot send. -/
theorem send_valid {transfer : Transfer} {context : RequestContext} {result : SendResult} (ready : context.Ready)
    (block2 : context.block1Active = false → IsBlockSize context.block2Info.size)
    (goesOn : ∀ event ∈ transfer.log, ¬ event.Terminal) (notFailed : ∀ error, result ≠ .failed error) :
    ∃ transfer', transfer.sendBlockwiseRequest context result = .ok (transfer', .ok ()) ∧
      BlockwiseRun.Valid ⟨transfer', context.paused⟩ ∧
      (result = .pending → transfer'.context.isSome) := by
  have alive : ∀ transfer' : Transfer, transfer'.context = some context → transfer'.log = transfer.log →
      context.paused = true ∨ transfer'.isPending = true → BlockwiseRun.Valid ⟨transfer', context.paused⟩ := by
    intro transfer' isContext isLog waits
    refine ⟨.inr ⟨by simp [isContext], by simpa [isLog] using goesOn, waits⟩, ?_⟩
    intro context' isContext'
    rw [isContext] at isContext'
    rw [← Option.some.inj isContext']
    exact ⟨ready, rfl⟩
  unfold Transfer.sendBlockwiseRequest
  split
  · rename_i isPaused
    exact ⟨_, rfl, alive _ rfl rfl (.inl isPaused), fun _ => rfl⟩
  · obtain ⟨request, isRequest⟩ :=
      RequestContext.subRequest_ok ready.block1 (fun inactive _ => block2 inactive) ready.noSource
    rw [isRequest, ok_bind]
    cases result with
    | pending => exact ⟨_, rfl, alive _ rfl rfl (.inr rfl), fun _ => rfl⟩
    | failed error => exact absurd rfl (notFailed error)
    | reported error => exact ⟨_, rfl, @valid_error { transfer with context := some context } goesOn error _, by simp⟩

theorem checkEtag_ready {context context' : RequestContext} {content : Content} (ready : context.Ready)
    (checks : Transfer.checkEtag context content = .ok context') :
    context'.Ready ∧ context'.paused = context.paused ∧ context'.source = context.source := by
  obtain ⟨etag, rfl⟩ := Transfer.checkEtag_ok checks
  exact ⟨⟨ready.block1, ready.block2, ready.noSource⟩, rfl, rfl⟩

theorem onContinueResponse_valid {transfer : Transfer} {context : RequestContext} {content : Content} {result : SendResult}
    (ready : context.Ready) (goesOn : ∀ event ∈ transfer.log, ¬ event.Terminal) (notFailed : ∀ error, result ≠ .failed error)
    (hasSource : context.source.isSome ∨ ∃ error, getBlockInfo content.options optionBlock1 0 = .error error) :
    ∃ transfer', transfer.onContinueResponse context content result = .ok transfer' ∧
      BlockwiseRun.Valid ⟨transfer', context.paused⟩ := by
  unfold Transfer.onContinueResponse
  cases tells : getBlockInfo content.options optionBlock1 0 with
  | error error => exact ⟨_, rfl, valid_error goesOn _ _⟩
  | ok info =>
      have isSome : context.source.isSome := by
        rcases hasSource with isSome | ⟨error, isError⟩
        · exact isSome
        · rw [tells] at isError
          exact nomatch isError
      obtain ⟨source, isSource⟩ := Option.isSome_iff_exists.mp isSome
      simp only [isSource, RequestContext.sized]
      split
      · exact ⟨_, rfl, valid_error goesOn _ _⟩
      · rename_i sized
        split at sized
        · exact nomatch sized
        · rename_i size more _
          rw [← Except.ok.inj sized]
          have block2 : context.block1Active = false → IsBlockSize context.block2Info.size :=
            fun inactive => ready.block2 inactive isSome
          obtain ⟨transfer', sends, valid, -⟩ := @send_valid transfer
            { context with
              source := some source
              block1PayloadSize := size
              block1Info := ⟨context.block1Info.offset + context.block1PayloadSize,
                min context.block1Info.size info.size, more⟩ } result
            ⟨fun active => (ready.block1 active).min (getBlockInfo_isBlockSize tells).1, fun inactive _ => block2 inactive,
              fun none => (nomatch none)⟩ block2 goesOn notFailed
          simp only [sends, ok_bind]
          exact ⟨transfer', rfl, valid⟩

/-- Calls that do not resume a paused request pause it or not, in the eyes of the application as
    well as in the state of the request. -/
theorem neverResumed_spec {paused : Bool} {calls : List BlockwiseCall} (never : neverResumed paused calls = true) :
    NoCancel calls ∧ pausedAfter paused calls = (paused || hasPause calls) := by
  induction calls generalizing paused with
  | nil => exact ⟨fun _ member => (by cases member), by simp [pausedAfter, hasPause]⟩
  | cons call calls ih =>
      cases call with
      | pause =>
          obtain ⟨noCancel, isPaused⟩ := ih never
          refine ⟨by simpa [NoCancel] using noCancel, ?_⟩
          simpa [pausedAfter, hasPause] using isPaused
      | resume result =>
          obtain ⟨notPaused, never⟩ : (!paused) = true ∧ neverResumed paused calls = true := by
            simpa [neverResumed] using never
          obtain ⟨noCancel, isPaused⟩ := ih never
          obtain rfl : paused = false := by simpa using notPaused
          refine ⟨by simpa [NoCancel] using noCancel, ?_⟩
          simpa [pausedAfter, hasPause] using isPaused
      | cancel => cases never

theorem onFinalResponse_valid {transfer : Transfer} {context : RequestContext} {content : Content}
    {reactions : List BlockwiseCall} (ready : context.Ready) (goesOn : ∀ event ∈ transfer.log, ¬ event.Terminal)
    (never : neverResumed context.paused reactions = true) :
    ∃ transfer', transfer.onFinalResponse context content reactions .pending = .ok transfer' ∧
      BlockwiseRun.Valid ⟨transfer', pausedAfter context.paused reactions⟩ := by
  obtain ⟨noCancel, isPaused⟩ := neverResumed_spec never
  unfold Transfer.onFinalResponse
  simp only
  cases isInfo : Transfer.block2InfoOf { context with block1Active := false } content with
  | error error => exact ⟨_, rfl, valid_error goesOn _ _⟩
  | ok info =>
      simp only [Transfer.calls_eq noCancel, ok_bind, Option.map_some, Transfer.continueBlock2]
      cases isMore : info.more with
      | false =>
          refine ⟨_, rfl, .inl ⟨rfl, transfer.log, .block info content.payload, rfl, isMore, goesOn⟩, ?_⟩
          exact fun _ none => (by cases none)
      | true =>
          have isSize := Transfer.block2InfoOf_isBlockSize isInfo isMore
          have goesOn' : ∀ event ∈ transfer.log ++ [BlockEvent.block info content.payload], ¬ event.Terminal := by
            intro event member
            rcases List.mem_append.mp member with earlier | last
            · exact goesOn event earlier
            · rw [List.mem_singleton.mp last, BlockEvent.Terminal, isMore]
              simp
          obtain ⟨transfer', sends, valid, alive⟩ := @send_valid
            { transfer with
              context := some (RequestContext.pausedBy { context with block1Active := false } (hasPause reactions))
              log := transfer.log ++ [BlockEvent.block info content.payload] }
            { RequestContext.pausedBy { context with block1Active := false } (hasPause reactions) with
              block2Active := true
              block2Info := ⟨info.offset + info.size, info.size, false⟩ } .pending
            ⟨fun active => (by cases active), fun _ _ => isSize, ready.noSource⟩ (fun _ => isSize) goesOn' (by simp)
          obtain ⟨context', isContext'⟩ := Option.isSome_iff_exists.mp (alive rfl)
          refine ⟨transfer', by simp only [if_true, sends, ok_bind, isContext']; rfl, ?_⟩
          rw [isPaused]
          exact valid

theorem onResponse_valid {state : BlockwiseRun} (valid : state.Valid) {content : Content} {reactions : List BlockwiseCall}
    {result : SendResult} (may : state.MayTake (.response content reactions result)) :
    ∃ transfer', state.transfer.onResponse content reactions result = .ok transfer' ∧
      BlockwiseRun.Valid
        ⟨transfer', if content.code = codeContinue then state.paused else pausedAfter state.paused reactions⟩ := by
  unfold Transfer.onResponse
  cases isContext : state.transfer.context with
  | none =>
      rcases valid.1 with gone | ⟨alive, -⟩
      · exact ⟨state.transfer, rfl, .inl gone, fun _ some => absurd some (by simp [isContext])⟩
      · simp [isContext] at alive
  | some context =>
      obtain ⟨ready, samePaused⟩ := valid.2 context isContext
      obtain ⟨never, taken⟩ := may
      have goesOn : ∀ event ∈ state.transfer.log, ¬ event.Terminal := by
        rcases valid.1 with ⟨gone, -⟩ | ⟨-, goesOn, -⟩
        · simp [isContext] at gone
        · exact goesOn
      simp only
      cases checks : Transfer.checkEtag context content with
      | error error => exact ⟨_, rfl, @valid_error { state.transfer with isPending := false } goesOn _ _⟩
      | ok context' =>
          obtain ⟨ready', samePaused', sameSource⟩ := checkEtag_ready ready checks
          have taken := taken context isContext
          rw [← samePaused, ← samePaused'] at never ⊢
          unfold Taken at taken
          simp only
          split
          · rename_i isContinue
            rw [if_pos isContinue, ← sameSource] at taken
            exact @onContinueResponse_valid { state.transfer with isPending := false } context' content result ready' goesOn
              taken.1 taken.2
          · rename_i isFinal
            rw [if_neg isFinal] at taken
            rw [taken]
            exact @onFinalResponse_valid { state.transfer with isPending := false } context' content reactions ready' goesOn
              never

namespace BlockwiseRun

theorem Valid.step {state : BlockwiseRun} (valid : state.Valid) {step : BlockwiseStep} (may : state.MayTake step) :
    ∃ state', state.step step = .ok state' ∧ state'.Valid := by
  cases step with
  | call call =>
      obtain ⟨noCancel, isPaused⟩ := neverResumed_spec may
      refine ⟨_, by rw [BlockwiseRun.step, Transfer.call_eq (noCancel call List.mem_cons_self)]; rfl, ?_, ?_⟩
      · rcases valid.1 with ⟨gone, ended⟩ | ⟨alive, goesOn, waits⟩
        · exact .inl ⟨by simp [gone], ended⟩
        · refine .inr ⟨by simpa using alive, goesOn, ?_⟩
          rw [isPaused]
          exact waits.imp (by simp +contextual) id
      · intro context' isContext'
        obtain ⟨context, isContext, rfl⟩ := Option.map_eq_some_iff.mp isContext'
        obtain ⟨ready, samePaused⟩ := valid.2 context isContext
        refine ⟨⟨ready.block1, ready.block2, ready.noSource⟩, ?_⟩
        rw [isPaused, ← samePaused]
        simp [RequestContext.pausedBy, hasPause]
  | response content reactions result =>
      obtain ⟨transfer', responds, valid'⟩ := onResponse_valid valid may
      rw [BlockwiseRun.step, responds]
      split
      · exact ⟨_, rfl, valid'⟩
      · exact ⟨state, rfl, valid⟩
  | error error =>
      refine ⟨_, rfl, ?_⟩
      split
      · unfold Transfer.onError
        split
        · exact valid
        · rename_i context isContext
          apply valid_error
          rcases valid.1 with ⟨gone, -⟩ | ⟨-, goesOn, -⟩
          · simp [isContext] at gone
          · exact goesOn
      · exact valid

theorem Valid.run {state : BlockwiseRun} (valid : state.Valid) {steps : List BlockwiseStep} (permits : state.Permits steps) :
    ∃ state', state.run steps = .ok state' ∧ state'.Valid := by
  induction steps generalizing state with
  | nil => exact ⟨state, rfl, valid⟩
  | cons step steps ih =>
      obtain ⟨state', steps', valid'⟩ := valid.step permits.1
      unfold BlockwiseRun.run at ih ⊢
      rw [List.foldlM_cons, steps']
      exact ih valid' (permits.2 state' steps')

end BlockwiseRun

theorem send_run_valid {method : Method} {options : List MessageOption} {source : Option BlockSource}
    {preferredBlockSize : Nat} {result : SendResult} {first : Transfer}
    (sends : Transfer.send method options source preferredBlockSize result = .ok (first, .ok ())) :
    BlockwiseRun.Valid ⟨first, false⟩ := by
  obtain ⟨allowed, request, rfl⟩ := Transfer.sends_of_send sends
  refine ⟨.inr ⟨rfl, fun _ member => (nomatch member), .inr rfl⟩, ?_⟩
  intro context isContext
  rw [← Option.some.inj isContext]
  have initial := Transfer.initialContext_spec method options source preferredBlockSize
  refine ⟨⟨?_, ?_, ?_⟩, initial.runs⟩
  · intro active
    rw [initial.size active]
    exact ⟨6, by decide, rfl⟩
  · intro inactive isSome
    rw [initial.isSource] at isSome
    have notUpload : ¬ (method = .put ∨ method = .post) := by
      rw [← initial.active, inactive]
      decide
    exact absurd ⟨isSome, not_or.mp notUpload⟩ allowed
  · rw [initial.isSource]
    exact initial.noSource

/-- In every run in which the endpoint takes the sub-requests, only a request with a payload source
    is told to continue, and no paused request is resumed: the request has reported its end once
    and is gone, or it is paused, or a sub-request is pending. -/
theorem settled_of_run (method : Method) (options : List MessageOption) (source : Option BlockSource)
    (preferredBlockSize : Nat) (result : SendResult) (first : Transfer) (steps : List BlockwiseStep)
    (sends : Transfer.send method options source preferredBlockSize result = .ok (first, .ok ()))
    (permits : BlockwiseRun.Permits ⟨first, false⟩ steps) :
    ∃ state, BlockwiseRun.run ⟨first, false⟩ steps = .ok state ∧ state.Settled := by
  obtain ⟨state, runs, valid⟩ := (send_run_valid sends).run permits
  exact ⟨state, runs, valid.1⟩

/-- The first one of two blocks comes, the application pauses the request while it waits for the
    second one, and the second one comes. -/
def twoBlockSteps : List BlockwiseStep :=
  [.response ⟨codeContent, [⟨optionBlock2, .uint 8⟩], List.replicate 16 7⟩ [] .pending, .call .pause,
    .response ⟨codeContent, [⟨optionBlock2, .uint 16⟩], [7]⟩ [] .pending]

theorem settled_twoBlockSteps :
    ∃ state, BlockwiseRun.run ⟨twoBlockRequest, false⟩ twoBlockSteps = .ok state ∧ state.Settled := by
  have taken : ∀ options payload context, Taken context ⟨codeContent, options, payload⟩ .pending := by
    intro options payload context
    have notContinue : ¬ codeContent = codeContinue := by decide
    rw [Taken, if_neg notContinue]
  exact settled_of_run .get [] none 16 .pending twoBlockRequest twoBlockSteps rfl
    ⟨⟨rfl, fun _ _ => taken _ _ _⟩, fun _ _ => ⟨rfl, fun _ _ => ⟨⟨rfl, fun _ _ => taken _ _ _⟩, fun _ _ => trivial⟩⟩⟩

/-- The endpoint has no timer for the second sub-request. The request is alive, it is not paused,
    and nothing is pending. -/
theorem failedSend_not_settled :
    Transfer.send .get [] none 16 .pending = .ok (twoBlockRequest, .ok ()) ∧
      ∃ state, BlockwiseRun.run ⟨twoBlockRequest, false⟩
          [.response ⟨codeContent, [⟨optionBlock2, .uint 8⟩], List.replicate 16 7⟩ [] (.failed .outOfResources)] =
            .ok state ∧
        state.transfer.context.isSome ∧ state.paused = false ∧ state.transfer.isPending = false ∧ ¬ state.Settled := by
  refine ⟨rfl, _, rfl, rfl, rfl, rfl, ?_⟩
  rintro (⟨gone, -⟩ | ⟨-, -, paused | isPending⟩)
  · exact nomatch gone
  · exact nomatch paused
  · exact nomatch isPending

end GoldenGate.Coap
