import GoldenGate.Coap.Blockwise

/-! # Pauses

A GET request that is paused and resumed on the way, beside the same request without pauses.
Resuming a request does not clear its `PAUSED` bit, so that a paused request sends nothing any
more: the two runs go side by side up to the first pause, and the block that is awaited then is
the last one.
-/

namespace GoldenGate.Coap

open Memory

def Turn.Pauses (self : Turn) : Prop := hasPause self.outside = true ∨ hasPause self.inside = true

def Turn.NoCancel (self : Turn) : Prop := Coap.NoCancel self.outside ∧ Coap.NoCancel self.inside

/-! ## Responses -/

/-- What a response brings a GET request: a fault, its last event, or a block that is followed by
    the next sub-request. -/
inductive Outcome where
  | fails (fault : Fault)
  | ended (event : BlockEvent)
  | more (event : BlockEvent) (next : RequestContext) (request : SubRequest)

/-- The next sub-request is not sent when the request was paused. -/
def Outcome.apply (transfer : Transfer) (paused : Bool) : Outcome → Access Transfer
  | .fails fault => .error fault
  | .ended event => .ok ⟨none, false, transfer.requests, transfer.log ++ [event]⟩
  | .more event next request =>
      if paused then .ok ⟨some (next.pausedBy true), false, transfer.requests, transfer.log ++ [event]⟩
      else .ok ⟨some next, true, transfer.requests ++ [request], transfer.log ++ [event]⟩

/-- A GET request that was not paused. -/
structure IsGet (context : RequestContext) : Prop where
  noBlock1 : context.block1Active = false
  noSource : context.source = none
  noPayload : context.block1PayloadSize = 0
  runs : context.paused = false

/-- What follows a block, for a request that was paused or not. -/
theorem continueBlock2_outcome {context : RequestContext} (isGet : IsGet context) {info : BlockInfo}
    (isSize : info.more = true → IsBlockSize info.size) (event : BlockEvent) :
    ∃ outcome : Outcome, (∀ event' next request, outcome = .more event' next request → IsGet next) ∧
      ∀ (transfer : Transfer) (paused : Bool),
        Transfer.continueBlock2 ⟨some (context.pausedBy paused), false, transfer.requests, transfer.log ++ [event]⟩
          (context.pausedBy paused) info .pending = outcome.apply transfer paused := by
  cases isMore : info.more with
  | false =>
      refine ⟨.ended event, by simp, ?_⟩
      intro transfer paused
      rw [Transfer.continueBlock2, if_neg (by simp [isMore])]
      rfl
  | true =>
      let next : RequestContext :=
        { context with block2Active := true, block2Info := ⟨info.offset + info.size, info.size, false⟩ }
      have isGet' : IsGet next := ⟨isGet.noBlock1, isGet.noSource, isGet.noPayload, isGet.runs⟩
      obtain ⟨request, isRequest⟩ : ∃ request, next.subRequest = .ok request :=
        RequestContext.subRequest_ok (fun active => absurd active (by simp [isGet'.noBlock1]))
          (fun _ _ => isSize isMore) (fun _ => isGet'.noPayload)
      refine ⟨.more event next request, ?_, ?_⟩
      · intro event' next' request' same
        cases same
        exact isGet'
      · intro transfer paused
        rw [Transfer.continueBlock2, if_pos isMore]
        change (Transfer.sendBlockwiseRequest _ (next.pausedBy paused) .pending >>= _) = _
        cases paused with
        | true =>
            rw [Transfer.sendBlockwiseRequest, if_pos (by simp [RequestContext.pausedBy])]
            rfl
        | false =>
            rw [next.pausedBy_false, Transfer.sendBlockwiseRequest, if_neg (by simp [isGet'.runs]), isRequest]
            rfl

/-- The ETag is checked in the same way whether or not the request was paused. -/
theorem checkEtag_pausedBy (context : RequestContext) (response : Content) (paused : Bool) :
    Transfer.checkEtag (context.pausedBy paused) response =
      (Transfer.checkEtag context response).map (·.pausedBy paused) := by
  unfold Transfer.checkEtag
  split
  · rfl
  · split
    · rfl
    · have same : (context.pausedBy paused).etag = context.etag := rfl
      rw [same]
      by_cases known : context.etag ≠ []
      · simp only [if_pos known]
        split <;> rfl
      · simp only [if_neg known]
        rfl

/-- A response to a GET request brings the same event whether or not the request was paused;
    only the next sub-request is missing when it was. -/
theorem onResponse_outcome {context : RequestContext} (isGet : IsGet context) (response : Content) :
    ∃ outcome : Outcome, (∀ event next request, outcome = .more event next request → IsGet next) ∧
      ∀ (transfer : Transfer) (paused : Bool) (reactions : List BlockwiseCall), NoCancel reactions →
        transfer.context = some (context.pausedBy paused) →
        transfer.onResponse response reactions .pending = outcome.apply transfer (paused || hasPause reactions) := by
  cases checks : Transfer.checkEtag context response with
  | error error =>
      refine ⟨.ended (.error error), by simp, ?_⟩
      intro transfer paused reactions _ isContext
      rw [Transfer.onResponse, isContext]
      simp only [checkEtag_pausedBy, checks]
      rfl
  | ok context' =>
      obtain ⟨etag, rfl⟩ := Transfer.checkEtag_ok checks
      by_cases isContinue : response.code = codeContinue
      · -- there is no source to continue with
        cases tells : getBlockInfo response.options optionBlock1 0 with
        | error error =>
            refine ⟨.ended (.error .coapInvalidResponse), by simp, ?_⟩
            intro transfer paused reactions _ isContext
            rw [Transfer.onResponse, isContext]
            simp only [checkEtag_pausedBy, checks, Except.map, isContinue, if_true, Transfer.onContinueResponse, tells]
            rfl
        | ok info =>
            refine ⟨.fails .assertion, by simp, ?_⟩
            intro transfer paused reactions _ isContext
            rw [Transfer.onResponse, isContext]
            have noSource : (RequestContext.pausedBy { context with etag := etag } paused).source = none := isGet.noSource
            simp only [checkEtag_pausedBy, checks, Except.map, isContinue, if_true, Transfer.onContinueResponse, tells,
              noSource]
            rfl
      · cases isInfo : Transfer.block2InfoOf { context with etag := etag } response with
        | error error =>
            refine ⟨.ended (.error error), by simp, ?_⟩
            intro transfer paused reactions _ isContext
            rw [Transfer.onResponse, isContext]
            have isInfo' : Transfer.block2InfoOf
                { RequestContext.pausedBy { context with etag := etag } paused with block1Active := false } response =
                  .error error := isInfo
            simp only [checkEtag_pausedBy, checks, Except.map, isContinue, if_false, Transfer.onFinalResponse, isInfo']
            rfl
        | ok info =>
            have isGet' : IsGet { context with etag := etag } := ⟨isGet.noBlock1, isGet.noSource, isGet.noPayload, isGet.runs⟩
            obtain ⟨outcome, nextIsGet, continues⟩ :=
              continueBlock2_outcome isGet' (Transfer.block2InfoOf_isBlockSize isInfo) (.block info response.payload)
            refine ⟨outcome, nextIsGet, ?_⟩
            intro transfer paused reactions noCancel isContext
            rw [Transfer.onResponse, isContext]
            have isInfo' : Transfer.block2InfoOf
                { RequestContext.pausedBy { context with etag := etag } paused with block1Active := false } response =
                  .ok info := isInfo
            have noBlock1 : { RequestContext.pausedBy { context with etag := etag } paused with block1Active := false } =
                RequestContext.pausedBy { context with etag := etag } paused := by
              simp [RequestContext.pausedBy, isGet.noBlock1]
            simp only [checkEtag_pausedBy, checks, Except.map, isContinue, if_false, Transfer.onFinalResponse, isInfo']
            simp only [noBlock1, Transfer.calls_eq noCancel, ok_bind, Option.map_some, RequestContext.pausedBy_pausedBy]
            exact continues transfer (paused || hasPause reactions)

/-! ## Turns -/

/-- A GET request that has not been paused, or is gone. -/
structure Reading (transfer : Transfer) : Prop where
  isGet : ∀ context, transfer.context = some context → IsGet context
  gone : transfer.context = none → transfer.isPending = false

/-- The server has nothing to answer. -/
def Stuck (server : List SubRequest → Option Content) (transfer : Transfer) : Prop :=
  transfer.isPending = true → server transfer.requests = none

theorem turn_stuck {server : List SubRequest → Option Content} {transfer : Transfer} (stuck : Stuck server transfer)
    {turn : Turn} (noCancel : turn.NoCancel) :
    transfer.turn server turn =
      .ok { transfer with context := transfer.context.map (·.pausedBy (hasPause turn.outside)) } := by
  rw [Transfer.turn, Transfer.calls_eq noCancel.1, ok_bind]
  cases isPending : transfer.isPending with
  | false => rfl
  | true =>
      simp only [stuck isPending]
      rfl

theorem turn_outcome {server : List SubRequest → Option Content} {transfer : Transfer} (reading : Reading transfer)
    (isPending : transfer.isPending = true) {response : Content} (answers : server transfer.requests = some response) :
    ∃ outcome : Outcome, (∀ event next request, outcome = .more event next request → IsGet next) ∧
      ∀ turn : Turn, turn.NoCancel →
        transfer.turn server turn = outcome.apply transfer (hasPause turn.outside || hasPause turn.inside) := by
  cases isContext : transfer.context with
  | none => exact absurd isPending (by simp [reading.gone isContext])
  | some context =>
      obtain ⟨outcome, nextIsGet, responds⟩ := onResponse_outcome (reading.isGet context isContext) response
      refine ⟨outcome, nextIsGet, ?_⟩
      intro turn noCancel
      rw [Transfer.turn, Transfer.calls_eq noCancel.1, ok_bind]
      simp only [isPending, answers, isContext, Option.map_some]
      rw [responds _ (hasPause turn.outside) turn.inside noCancel.2 rfl]
      cases outcome <;> rfl

theorem quiet_noCancel : Turn.quiet.NoCancel :=
  ⟨fun _ member => (nomatch member), fun _ member => (nomatch member)⟩

theorem Stuck.or_answers (server : List SubRequest → Option Content) (transfer : Transfer) :
    Stuck server transfer ∨ ∃ response, transfer.isPending = true ∧ server transfer.requests = some response := by
  cases isPending : transfer.isPending with
  | false => exact .inl (by simp [Stuck, isPending])
  | true =>
      cases answers : server transfer.requests with
      | none => exact .inl (fun _ => answers)
      | some response => exact .inr ⟨response, rfl, rfl⟩

theorem map_pausedBy_false (context : Option RequestContext) : context.map (·.pausedBy false) = context := by
  cases context with
  | none => rfl
  | some context => exact congrArg some context.pausedBy_false

/-- Without a pause a turn is as it is without any call. -/
theorem turn_of_not_pauses {server : List SubRequest → Option Content} {transfer : Transfer} (reading : Reading transfer)
    {turn : Turn} (noCancel : turn.NoCancel) (noPause : ¬ turn.Pauses) :
    transfer.turn server turn = transfer.turn server .quiet := by
  have none : hasPause turn.outside = false ∧ hasPause turn.inside = false := by
    simpa [Turn.Pauses] using noPause
  rcases Stuck.or_answers server transfer with stuck | ⟨response, isPending, answers⟩
  · rw [turn_stuck stuck noCancel, turn_stuck stuck quiet_noCancel, none.1]
    rfl
  · obtain ⟨outcome, -, responds⟩ := turn_outcome reading isPending answers
    rw [responds turn noCancel, responds .quiet quiet_noCancel, none.1, none.2]
    rfl

theorem Reading.turn {server : List SubRequest → Option Content} {transfer transfer' : Transfer}
    (reading : Reading transfer) (turns : transfer.turn server .quiet = .ok transfer') : Reading transfer' := by
  rcases Stuck.or_answers server transfer with stuck | ⟨response, isPending, answers⟩
  · rw [turn_stuck stuck quiet_noCancel, show hasPause Turn.quiet.outside = false from rfl, map_pausedBy_false] at turns
    rw [← Except.ok.inj turns]
    exact reading
  · obtain ⟨outcome, nextIsGet, responds⟩ := turn_outcome reading isPending answers
    rw [responds .quiet quiet_noCancel] at turns
    cases outcome with
    | fails fault => exact nomatch turns
    | ended event =>
        rw [← Except.ok.inj turns]
        exact ⟨fun _ some => (nomatch some), fun _ => rfl⟩
    | more event next request =>
        rw [← Except.ok.inj turns]
        refine ⟨?_, fun none => (nomatch none)⟩
        intro context isContext
        rw [← Option.some.inj isContext]
        exact nextIsGet event next request rfl

/-- A pause changes nothing for the block that is awaited, but it is the last one. -/
theorem turn_of_pauses {server : List SubRequest → Option Content} {transfer : Transfer} (reading : Reading transfer)
    {turn : Turn} (noCancel : turn.NoCancel) (pauses : turn.Pauses) :
    (transfer.turn server turn).map Transfer.log = (transfer.turn server .quiet).map Transfer.log ∧
      ∀ transfer', transfer.turn server turn = .ok transfer' → Stuck server transfer' := by
  rcases Stuck.or_answers server transfer with stuck | ⟨response, isPending, answers⟩
  · rw [turn_stuck stuck noCancel, turn_stuck stuck quiet_noCancel]
    refine ⟨rfl, ?_⟩
    intro transfer' same
    rw [← Except.ok.inj same]
    exact stuck
  · obtain ⟨outcome, -, responds⟩ := turn_outcome reading isPending answers
    rw [responds turn noCancel, responds .quiet quiet_noCancel, show (hasPause turn.outside || hasPause turn.inside) = true by
      simpa [Turn.Pauses] using pauses]
    cases outcome with
    | fails fault => exact ⟨rfl, fun _ same => (nomatch same)⟩
    | ended event =>
        refine ⟨rfl, ?_⟩
        intro transfer' same
        rw [← Except.ok.inj same]
        exact fun isPending' => (nomatch isPending')
    | more event next request =>
        refine ⟨rfl, ?_⟩
        intro transfer' same
        rw [← Except.ok.inj same]
        exact fun isPending' => (nomatch isPending')

/-! ## Runs -/

section

variable {server : List SubRequest → Option Content} {first : Transfer}

theorem Reading.turns (reading : Reading first) {count : Nat} {transfer : Transfer}
    (runs : first.turns server (fun _ => .quiet) count = .ok transfer) : Reading transfer := by
  induction count generalizing transfer with
  | zero =>
      rw [← Except.ok.inj runs]
      exact reading
  | succ count ih =>
      obtain ⟨before, runs', turns⟩ := bind_ok runs
      exact (ih runs').turn turns

/-- The two runs go side by side up to the first pause, and nothing comes after the turn of the
    first pause. -/
theorem turns_lockstep {schedule : Nat → Turn} (reading : Reading first) (noCancel : ∀ index, (schedule index).NoCancel)
    (count : Nat) :
    (∀ index < count, ¬ (schedule index).Pauses) ∧
        first.turns server schedule count = first.turns server (fun _ => .quiet) count ∨
      ∃ index < count, (schedule index).Pauses ∧ (∀ earlier < index, ¬ (schedule earlier).Pauses) ∧
        (first.turns server schedule count).map Transfer.log =
          (first.turns server (fun _ => .quiet) (index + 1)).map Transfer.log ∧
        ∀ transfer, first.turns server schedule count = .ok transfer → Stuck server transfer := by
  induction count with
  | zero => exact .inl ⟨fun index small => absurd small (Nat.not_lt_zero index), rfl⟩
  | succ count ih =>
      rcases ih with ⟨noPause, same⟩ | ⟨index, small, pauses, isFirst, sameLog, stuck⟩
      · by_cases pauses : (schedule count).Pauses
        · refine .inr ⟨count, Nat.lt_succ_self _, pauses, noPause, ?_⟩
          simp only [Transfer.turns, same]
          cases runs : first.turns server (fun _ => .quiet) count with
          | error fault => exact ⟨rfl, fun _ ok => (nomatch ok)⟩
          | ok transfer => exact turn_of_pauses (reading.turns runs) (noCancel count) pauses
        · refine .inl ⟨?_, ?_⟩
          · intro index small
            rcases Nat.lt_succ_iff_lt_or_eq.mp small with less | rfl
            · exact noPause index less
            · exact pauses
          · simp only [Transfer.turns, same]
            cases runs : first.turns server (fun _ => .quiet) count with
            | error fault => rfl
            | ok transfer => exact turn_of_not_pauses (reading.turns runs) (noCancel count) pauses
      · refine .inr ⟨index, Nat.lt_succ_of_lt small, pauses, isFirst, ?_⟩
        rw [← sameLog]
        simp only [Transfer.turns]
        cases runs : first.turns server schedule count with
        | error fault => exact ⟨rfl, fun _ ok => (nomatch ok)⟩
        | ok transfer =>
            rw [ok_bind, turn_stuck (stuck transfer runs) (noCancel count)]
            refine ⟨rfl, ?_⟩
            intro transfer' same
            rw [← Except.ok.inj same]
            exact stuck transfer runs

/-- The blocks that the listener was given. -/
def blocksOf (log : List BlockEvent) : List (BlockInfo × List UInt8) :=
  log.filterMap fun event =>
    match event with
    | .block info payload => some (info, payload)
    | .error _ => none

theorem turn_log {transfer transfer' : Transfer} (reading : Reading transfer)
    (turns : transfer.turn server .quiet = .ok transfer') : blocksOf transfer.log <+: blocksOf transfer'.log := by
  have grows : transfer.log <+: transfer'.log := by
    rcases Stuck.or_answers server transfer with stuck | ⟨response, isPending, answers⟩
    · rw [turn_stuck stuck quiet_noCancel] at turns
      exact Except.ok.inj turns ▸ List.prefix_refl _
    · obtain ⟨outcome, -, responds⟩ := turn_outcome reading isPending answers
      rw [responds .quiet quiet_noCancel] at turns
      cases outcome with
      | fails fault => exact nomatch turns
      | ended event =>
          rw [← Except.ok.inj turns]
          exact List.prefix_append _ _
      | more event next request =>
          rw [← Except.ok.inj turns]
          exact List.prefix_append _ _
  exact grows.filterMap _

/-- The run without pauses goes on from where it was. -/
theorem turns_log (reading : Reading first) {count count' : Nat} (le : count ≤ count') {after : Transfer}
    (runs : first.turns server (fun _ => .quiet) count' = .ok after) :
    ∃ before, first.turns server (fun _ => .quiet) count = .ok before ∧
      blocksOf before.log <+: blocksOf after.log := by
  induction le generalizing after with
  | refl => exact ⟨after, runs, List.prefix_refl _⟩
  | step _ ih =>
      obtain ⟨between, runs', turns⟩ := bind_ok runs
      obtain ⟨before, runs'', isPrefix⟩ := ih runs'
      exact ⟨before, runs'', isPrefix.trans (turn_log (reading.turns runs') turns)⟩

/-- In the run without pauses this turn brings a block. -/
def DeliversAt (server : List SubRequest → Option Content) (first : Transfer) (index : Nat) : Prop :=
  ∃ before after, first.turns server (fun _ => .quiet) index = .ok before ∧
    first.turns server (fun _ => .quiet) (index + 1) = .ok after ∧ blocksOf after.log ≠ blocksOf before.log

theorem turns_log_eq {count count' : Nat} (le : count ≤ count')
    (none : ∀ index, count ≤ index → index < count' → ¬ DeliversAt server first index) {before after : Transfer}
    (runs : first.turns server (fun _ => .quiet) count = .ok before)
    (runs' : first.turns server (fun _ => .quiet) count' = .ok after) : blocksOf after.log = blocksOf before.log := by
  induction le generalizing after with
  | refl =>
      rw [runs] at runs'
      rw [Except.ok.inj runs']
  | step le ih =>
      rename_i count'
      obtain ⟨between, runs'', turns⟩ := bind_ok runs'
      rw [← ih (fun index least small => none index least (Nat.lt_succ_of_lt small)) runs'']
      by_contra differ
      exact none count' le (Nat.lt_succ_self _) ⟨between, after, runs'', runs', differ⟩

/-- The listener is given these blocks at some time. -/
def Delivers (server : List SubRequest → Option Content) (first : Transfer) (schedule : Nat → Turn)
    (blocks : List (BlockInfo × List UInt8)) : Prop :=
  ∃ count transfer, first.turns server schedule count = .ok transfer ∧ blocksOf transfer.log = blocks

/-- The listener is given the same blocks as without pauses. -/
def SameBlocks (server : List SubRequest → Option Content) (first : Transfer) (schedule : Nat → Turn) : Prop :=
  ∀ blocks, Delivers server first schedule blocks ↔ Delivers server first (fun _ => .quiet) blocks

theorem log_of_map {result : Access Transfer} {transfer : Transfer}
    (same : result.map Transfer.log = .ok transfer.log) : ∃ transfer', result = .ok transfer' ∧ transfer'.log = transfer.log := by
  cases result with
  | error fault => exact nomatch same
  | ok transfer' => exact ⟨transfer', rfl, Except.ok.inj same⟩

/-- Pauses with no block to come do not matter. -/
theorem sameBlocks_of_late_pauses {schedule : Nat → Turn} (reading : Reading first)
    (noCancel : ∀ index, (schedule index).NoCancel)
    (late : ∀ index, (schedule index).Pauses → ∀ later, index < later → ¬ DeliversAt server first later) :
    SameBlocks server first schedule := by
  intro blocks
  constructor
  · rintro ⟨count, transfer, runs, rfl⟩
    rcases turns_lockstep reading noCancel count with ⟨-, same⟩ | ⟨index, -, -, -, sameLog, -⟩
    · exact ⟨count, transfer, same ▸ runs, rfl⟩
    · rw [runs] at sameLog
      obtain ⟨transfer', runs', isLog⟩ := log_of_map sameLog.symm
      exact ⟨index + 1, transfer', runs', by rw [isLog]⟩
  · rintro ⟨count, transfer, runs, rfl⟩
    rcases turns_lockstep reading noCancel count with ⟨-, same⟩ | ⟨index, small, pauses, -, sameLog, -⟩
    · exact ⟨count, transfer, same.trans runs, rfl⟩
    · obtain ⟨before, runs', -⟩ := turns_log reading (Nat.succ_le_of_lt small) runs
      rw [runs'] at sameLog
      obtain ⟨transfer', runs'', isLog⟩ := log_of_map sameLog
      refine ⟨count, transfer', runs'', ?_⟩
      rw [isLog, ← turns_log_eq (Nat.succ_le_of_lt small) ?_ runs' runs]
      intro later least _
      exact late index pauses later least

/-- A pause with a block to come loses that block. -/
theorem not_sameBlocks_of_pause {schedule : Nat → Turn} (reading : Reading first)
    (noCancel : ∀ index, (schedule index).NoCancel) {index later : Nat} (pauses : (schedule index).Pauses)
    (less : index < later) (delivers : DeliversAt server first later) : ¬ SameBlocks server first schedule := by
  intro same
  obtain ⟨before, after, runsBefore, runsAfter, differ⟩ := delivers
  obtain ⟨count, transfer, runs, sameBlocks⟩ := (same (blocksOf after.log)).mpr ⟨later + 1, after, runsAfter, rfl⟩
  -- the paused run has not come further than the other one before that block
  have early : blocksOf transfer.log <+: blocksOf before.log := by
    rcases turns_lockstep reading noCancel count with ⟨noPause, same'⟩ | ⟨index', -, pauses', isFirst, sameLog, -⟩
    · have le : count ≤ later := by
        by_contra further
        exact noPause index (Nat.lt_trans less (Nat.not_le.mp further)) pauses
      obtain ⟨transfer', runs', isPrefix⟩ := turns_log reading le runsBefore
      rw [same', runs'] at runs
      rw [← Except.ok.inj runs]
      exact isPrefix
    · have le : index' + 1 ≤ later := by
        by_contra further
        exact isFirst index (by omega) pauses
      obtain ⟨transfer', runs', isPrefix⟩ := turns_log reading le runsBefore
      rw [runs, runs'] at sameLog
      have isLog : transfer.log = transfer'.log := Except.ok.inj sameLog
      rw [isLog]
      exact isPrefix
  obtain ⟨before', runsBefore', further⟩ := turns_log reading (Nat.le_succ later) runsAfter
  rw [runsBefore] at runsBefore'
  obtain rfl := Except.ok.inj runsBefore'
  rw [sameBlocks] at early
  exact differ (early.eq_of_length_le further.length_le)

end

theorem send_reading {options : List MessageOption} {preferredBlockSize : Nat} {first : Transfer}
    (sends : Transfer.send .get options none preferredBlockSize .pending = .ok (first, .ok ())) : Reading first := by
  obtain ⟨-, request, rfl⟩ := Transfer.sends_of_send sends
  refine ⟨?_, fun none => (nomatch none)⟩
  intro context isContext
  rw [← Option.some.inj isContext, Transfer.initialContext_get]
  exact ⟨rfl, rfl, rfl, rfl⟩

/-- The listener of a GET request is given the same blocks as without pauses if and only if no
    pause is made while there are further blocks to come than the one that is awaited. -/
theorem sameBlocks_iff (server : List SubRequest → Option Content) (options : List MessageOption)
    (preferredBlockSize : Nat) (first : Transfer) (schedule : Nat → Turn)
    (sends : Transfer.send .get options none preferredBlockSize .pending = .ok (first, .ok ()))
    (noCancel : ∀ index, (schedule index).NoCancel) :
    SameBlocks server first schedule ↔
      ∀ index, (schedule index).Pauses → ∀ later, index < later → ¬ DeliversAt server first later := by
  have reading := send_reading sends
  constructor
  · intro same index pauses later less delivers
    exact not_sameBlocks_of_pause reading noCancel pauses less delivers same
  · exact sameBlocks_of_late_pauses reading noCancel

/-- A server with two blocks. -/
def twoBlockServer (requests : List SubRequest) : Option Content :=
  match requests.length with
  | 1 => some ⟨codeContent, [⟨optionBlock2, .uint 8⟩], List.replicate 16 7⟩
  | 2 => some ⟨codeContent, [⟨optionBlock2, .uint 16⟩], [7]⟩
  | _ => none

/-- The listener pauses the request when it is given the first block, and the application resumes
    it after that. -/
def pausedOnce : Nat → Turn
  | 0 => ⟨[], [.pause]⟩
  | 1 => ⟨[.resume .pending], []⟩
  | _ => .quiet

theorem pausedOnce_noCancel (index : Nat) : (pausedOnce index).NoCancel := by
  match index with
  | 0 => exact ⟨by simp [pausedOnce, NoCancel], by simp [pausedOnce, NoCancel]⟩
  | 1 => exact ⟨by simp [pausedOnce, NoCancel], by simp [pausedOnce, NoCancel]⟩
  | _ + 2 => exact quiet_noCancel

/-- The request is the one that `send` makes. -/
def twoBlockRequest : Transfer :=
  ⟨some (Transfer.initialContext .get [] none 16), true, [⟨.get, [⟨optionBlock2, .uint 0⟩], []⟩], []⟩

theorem sameBlocks_iff_pausedOnce :
    Transfer.send .get [] none 16 .pending = .ok (twoBlockRequest, .ok ()) ∧
      (SameBlocks twoBlockServer twoBlockRequest pausedOnce ↔
        ∀ index, (pausedOnce index).Pauses → ∀ later, index < later →
          ¬ DeliversAt twoBlockServer twoBlockRequest later) :=
  ⟨rfl, sameBlocks_iff twoBlockServer [] 16 twoBlockRequest pausedOnce rfl pausedOnce_noCancel⟩

/-- The second block never comes. -/
theorem pausedOnce_not_same :
    Transfer.send .get [] none 16 .pending = .ok (twoBlockRequest, .ok ()) ∧
      pausedOnce 0 = ⟨[], [.pause]⟩ ∧ pausedOnce 1 = ⟨[.resume .pending], []⟩ ∧
      (∀ index, pausedOnce (index + 2) = .quiet) ∧
      ¬ SameBlocks twoBlockServer twoBlockRequest pausedOnce := by
  have sends : Transfer.send .get [] none 16 .pending = .ok (twoBlockRequest, .ok ()) := rfl
  refine ⟨sends, rfl, rfl, fun _ => rfl, ?_⟩
  have delivers : DeliversAt twoBlockServer twoBlockRequest 1 := ⟨_, _, rfl, rfl, by decide⟩
  have pauses : (pausedOnce 0).Pauses := .inr rfl
  exact not_sameBlocks_of_pause (send_reading sends) pausedOnce_noCancel pauses Nat.one_pos delivers

end GoldenGate.Coap
