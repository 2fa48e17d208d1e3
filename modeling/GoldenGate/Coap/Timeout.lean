import GoldenGate.Coap.LifecycleSteps

/-! # Requests that nobody answers

A request whose timer is scheduled stays so, whatever is done with the other requests, until the
timer fires. Every firing leaves one resend less, and the last one tells the listener.
-/

namespace GoldenGate.Coap

open Memory

/-- A context that waits for an answer, with some resends left. -/
structure CoapRequestContext.Waiting (context : CoapRequestContext) (left : Nat) : Prop where
  scheduled : context.resendTimer = some true
  state : context.state = .readyToSend ∨ context.state = .waitingForAck
  left : context.maxResendCount.toNat - context.resendCount.toNat = left

/-- A request that waits for an answer, of which its listener has heard nothing. -/
structure Waits (state : EndpointRun) (handle left : Nat) : Prop where
  silent : callbacks state.history handle = []
  waiting : ∃ context, state.endpoint.find handle = some context ∧ context.Waiting left

/-- How a request is resent: the delay of its timer, and the numbers of resends. -/
structure Pace where
  resendTimeout : UInt32
  resendCount : UInt8
  maxResendCount : UInt8
  deriving Repr, DecidableEq

/-- A context that waits for an answer, with its pace. -/
structure CoapRequestContext.WaitingAt (context : CoapRequestContext) (pace : Pace) : Prop where
  scheduled : context.resendTimer = some true
  state : context.state = .readyToSend ∨ context.state = .waitingForAck
  pace : Pace.mk context.resendTimeout context.resendCount context.maxResendCount = pace

/-- A request that waits for an answer, with its pace. -/
structure WaitsAt (state : EndpointRun) (handle : Nat) (pace : Pace) : Prop where
  silent : callbacks state.history handle = []
  waiting : ∃ context, state.endpoint.find handle = some context ∧ context.WaitingAt pace

/-- The resends that are left. -/
def Pace.left (pace : Pace) : Nat := pace.maxResendCount.toNat - pace.resendCount.toNat

theorem waits_iff {state : EndpointRun} {handle left : Nat} :
    Waits state handle left ↔ ∃ pace : Pace, pace.left = left ∧ WaitsAt state handle pace := by
  constructor
  · rintro ⟨silent, context, found, scheduled, isState, isLeft⟩
    exact ⟨⟨context.resendTimeout, context.resendCount, context.maxResendCount⟩, isLeft, silent, context, found,
      scheduled, isState, rfl⟩
  · rintro ⟨_, isLeft, silent, context, found, scheduled, isState, rfl⟩
    exact ⟨silent, context, found, scheduled, isState, isLeft⟩

/-- The timer of a request is scheduled. -/
def EndpointRun.Scheduled (state : EndpointRun) (handle : Nat) : Prop :=
  ∃ context, state.endpoint.find handle = some context ∧ context.resendTimer = some true

theorem WaitsAt.scheduled {state : EndpointRun} {handle : Nat} {pace : Pace} (waits : WaitsAt state handle pace) :
    state.Scheduled handle := by
  obtain ⟨context, found, waiting⟩ := waits.waiting
  exact ⟨context, found, waiting.scheduled⟩

/-! ## Other requests -/

/-- A context that is found stays there when others are destroyed. -/
theorem CoapEndpoint.find_keep {endpoint : CoapEndpoint} {p : CoapRequestContext → Bool} {handle : Nat}
    {context : CoapRequestContext} (found : endpoint.find handle = some context) (holds : p context = true) :
    { endpoint with requests := endpoint.requests.filter p }.find handle = some context := by
  unfold find at found ⊢
  rw [List.find?_filter]
  obtain ⟨isHandle, earlier, later, isSplit, absent⟩ := List.find?_eq_some_iff_append.mp found
  apply List.find?_eq_some_iff_append.mpr
  refine ⟨by simpa [holds] using isHandle, earlier, later, isSplit, ?_⟩
  intro other member
  have notIt := absent other member
  simp_all

namespace WaitsAt

variable {state : EndpointRun} {handle : Nat} {pace : Pace}

theorem withEndpoint (waits : WaitsAt state handle pace) {endpoint : CoapEndpoint}
    (found : endpoint.find handle = state.endpoint.find handle) : WaitsAt { state with endpoint := endpoint } handle pace := by
  refine ⟨waits.silent, ?_⟩
  rw [found]
  exact waits.waiting

theorem log (waits : WaitsAt state handle pace) {event : EndpointEvent} (notTold : event.tellsListener handle = false) :
    WaitsAt (state.log event) handle pace := by
  refine ⟨?_, waits.waiting⟩
  rw [EndpointRun.log, callbacks_concat, waits.silent, notTold]
  rfl

theorem withFrames (waits : WaitsAt state handle pace) (frames : List Frame) :
    WaitsAt { state with frames := frames } handle pace :=
  ⟨waits.silent, waits.waiting⟩

theorem release (waits : WaitsAt state handle pace) (wasLocked : Bool) : WaitsAt (state.release wasLocked) handle pace := by
  unfold EndpointRun.release CoapEndpoint.release
  split
  · exact waits
  · obtain ⟨context, found, waiting⟩ := waits.waiting
    refine ⟨waits.silent, context, ?_, waiting⟩
    apply CoapEndpoint.find_keep found
    rcases waiting.state with isReady | isWaiting
    · simp [isReady]
    · simp [isWaiting]

theorem walked {state' : EndpointRun} {wasLocked : Bool} (waits : WaitsAt state handle pace)
    (walks : state' = state.release wasLocked ∨ ∃ context ∈ state.endpoint.requests, context.state = .readyToSend ∧
      ∃ next, state' = (state.log (.put context.handle)).push (.putting context.handle ⟨next, wasLocked⟩)) :
    WaitsAt state' handle pace := by
  rcases walks with rfl | ⟨context, -, -, next, rfl⟩
  · exact waits.release wasLocked
  · exact (waits.log rfl).withFrames _

theorem sendPendingRequests (waits : WaitsAt state handle pace) : WaitsAt state.sendPendingRequests handle pace :=
  (@withEndpoint _ _ _ waits { state.endpoint with locked := true } rfl).walked (EndpointRun.walkFrom_cases _ _ _)

theorem sendRequest (waits : WaitsAt state handle pace) (resendTimeout : UInt32) (maxResendCount : Nat) :
    WaitsAt (state.sendRequest resendTimeout maxResendCount) handle pace := by
  unfold EndpointRun.sendRequest
  apply sendPendingRequests
  refine (waits.log rfl).withEndpoint ?_
  obtain ⟨context, found, -⟩ := waits.waiting
  unfold CoapEndpoint.find at found ⊢
  rw [List.find?_append]
  simp only [EndpointRun.log, found]
  rfl

/-- The context of another request is changed. -/
theorem modify (waits : WaitsAt state handle pace) {other : Nat} (isOther : handle ≠ other)
    (f : CoapRequestContext → CoapRequestContext) (keeps : ∀ context, (f context).handle = context.handle) :
    WaitsAt { state with endpoint := state.endpoint.modify other f } handle pace :=
  waits.withEndpoint (CoapEndpoint.find_modify_ne keeps isOther)

/-- Another request is cancelled. -/
theorem cancel (waits : WaitsAt state handle pace) {other : Nat} (isOther : handle ≠ other) :
    WaitsAt { state with endpoint := state.endpoint.cancel other } handle pace := by
  apply waits.withEndpoint
  unfold CoapEndpoint.cancel
  split
  · exact CoapEndpoint.find_modify_ne (fun _ => rfl) isOther
  · exact state.endpoint.find_remove_ne isOther

theorem cancelRequest (waits : WaitsAt state handle pace) {other : Nat} (isOther : handle ≠ other) :
    WaitsAt (state.cancelRequest other).1 handle pace := by
  rcases cancelRequest_fst state other with same | cancels
  · rw [same]
    exact waits
  · rw [cancels]
    exact waits.cancel isOther

theorem onTimerFired (waits : WaitsAt state handle pace) {other : Nat} (isOther : handle ≠ other) :
    WaitsAt (state.onTimerFired other) handle pace := by
  unfold EndpointRun.onTimerFired
  split
  · exact waits
  · split
    · exact waits
    · split
      · exact (waits.modify isOther .resending (fun _ => rfl)).sendPendingRequests
      · have told : WaitsAt (state.log (.error other .timeout)) handle pace :=
          waits.log (by simpa [EndpointEvent.tellsListener] using fun same => isOther same.symm)
        exact (told.modify isOther .timerDue (fun _ => rfl)).withFrames _

/-- The listener of another request is told of a message. -/
theorem notify (waits : WaitsAt state handle pace) {other : Nat} (isOther : handle ≠ other) (reply : Reply)
    (wasLocked : Bool) : WaitsAt (state.notify other reply wasLocked) handle pace := by
  unfold EndpointRun.notify
  split
  · exact waits.release wasLocked
  · have notTold : (reply.event other).tellsListener handle = false := by
      apply (EndpointEvent.neutral_of_ne _).notTold
      rw [(reply.event_handle other).1]
      exact isOther.symm
    exact (waits.log notTold).withFrames _

/-- A message with another token. -/
theorem onResponse (lives : Lives state) (waits : WaitsAt state handle pace) {reply : Reply}
    (otherToken : ∀ context, state.endpoint.find handle = some context → reply.token ≠ context.token) :
    WaitsAt (state.onResponse reply) handle pace := by
  have locked := @withEndpoint _ _ _ waits { state.endpoint with locked := true } rfl
  unfold EndpointRun.onResponse
  simp only
  split
  · exact locked.release _
  · rename_i context found
    have isOther : handle ≠ context.handle := by
      rintro rfl
      have same := CoapEndpoint.find_of_mem lives.unique (List.mem_of_find?_eq_some found)
      have sameToken : context.token = reply.token := by simpa using List.find?_some found
      exact otherToken context same sameToken.symm
    have answered := locked.modify isOther (·.answered reply) (fun _ => rfl)
    split
    · refine (answered.log ?_).withFrames _
      simpa [EndpointEvent.tellsListener] using fun same => isOther same.symm
    · exact answered.notify isOther reply _

/-- A request that waits was not told to have ended by a waiting call. -/
theorem ne_of_finishes (lives : Lives state) (waits : WaitsAt state handle pace) {frame : Frame}
    (isTop : state.frames = [frame]) (isFinishing : frame.finishes frame.handle = true) : handle ≠ frame.handle := by
  intro same
  have ended := (lives.life frame.handle).finishes frame (by rw [isTop]; exact List.mem_singleton_self _) isFinishing
  rw [← same, waits.silent] at ended
  rcases ended with answered | ⟨error, failed | failed⟩
  · exact nomatch answered
  · exact nomatch failed
  · exact nomatch failed

/-- A call-out returns, and the sink does not fail when it is given the request. -/
theorem resume {state' : EndpointRun} {result : PutResult} (lives : Lives state) (waits : WaitsAt state handle pace)
    (noFailure : ∀ walk frames, state.frames = .putting handle walk :: frames → result ≠ .failure)
    (resumes : state.resume result = .ok state') : WaitsAt state' handle pace := by
  unfold EndpointRun.resume at resumes
  split at resumes
  · exact Except.ok.inj resumes ▸ waits
  · rename_i other walk frames isTop
    cases result with
    | wouldBlock => exact Except.ok.inj resumes ▸ (waits.withFrames frames).release walk.wasLocked
    | failure =>
        have isOther : other ≠ handle := fun same => noFailure walk frames (same ▸ isTop) rfl
        obtain ⟨-, -, fails⟩ := bind_ok resumes
        rw [← Except.ok.inj fails]
        exact ((waits.withFrames frames).log (by simpa [EndpointEvent.tellsListener] using isOther)).withFrames _
    | success =>
        obtain ⟨-, -, continues⟩ := bind_ok resumes
        rw [← Except.ok.inj continues]
        have sent : WaitsAt { state with endpoint := state.endpoint.setState other .waitingForAck } handle pace := by
          by_cases isOther : handle = other
          · obtain ⟨context, found, waiting⟩ := waits.waiting
            refine ⟨waits.silent, { context with state := .waitingForAck }, ?_, waiting.scheduled, .inr rfl, waiting.pace⟩
            rw [← isOther, CoapEndpoint.find_setState, found]
            rfl
          · exact waits.modify isOther ({ · with state := .waitingForAck }) (fun _ => rfl)
        exact ((sent.withFrames frames).log rfl).walked (EndpointRun.continueWalk_cases _ _)
  · rename_i other walk frames isTop
    obtain rfl := lives.top isTop
    have isOther : handle ≠ other := waits.ne_of_finishes lives isTop (by simp [Frame.finishes, Frame.handle])
    exact Except.ok.inj resumes ▸ ((waits.withFrames []).cancelRequest isOther).walked (EndpointRun.continueWalk_cases _ _)
  · rename_i other reply wasLocked frames isTop
    have isOther : handle ≠ other := by
      rintro rfl
      obtain ⟨context, found, isAcked⟩ := (lives.life handle).acking reply wasLocked (by rw [isTop]; exact List.mem_cons_self)
      obtain ⟨context', found', waiting⟩ := waits.waiting
      rw [found] at found'
      have isState := waiting.state
      rw [← Option.some.inj found', isAcked] at isState
      simp at isState
    obtain ⟨-, -, notifies⟩ := bind_ok resumes
    exact Except.ok.inj notifies ▸ (waits.withFrames frames).notify isOther reply wasLocked
  · rename_i other wasLocked frames isTop
    obtain rfl := lives.top isTop
    have isOther : handle ≠ other := waits.ne_of_finishes lives isTop (by simp [Frame.finishes, Frame.handle])
    obtain ⟨-, -, cancels⟩ := bind_ok resumes
    exact Except.ok.inj cancels ▸ ((waits.withFrames []).cancel isOther).release wasLocked
  · rename_i other frames isTop
    obtain rfl := lives.top isTop
    have isOther : handle ≠ other := waits.ne_of_finishes lives isTop (by simp [Frame.finishes, Frame.handle])
    exact Except.ok.inj resumes ▸ (waits.withFrames []).cancelRequest isOther

end WaitsAt

/-- Nothing is done to a request: no message has its token, it is not cancelled and the sink does not
    fail. -/
structure EndpointRun.Ignores (state : EndpointRun) (handle : Nat) (step : EndpointStep) : Prop where
  noMessage : ∀ reply context, step = .putData reply → state.endpoint.find handle = some context → reply.token ≠ context.token
  notCancelled : step ≠ .cancelRequest handle
  noFailure : step ≠ .resume .failure

/-- Nothing is done to a request, and the sink does not fail when it is given the request. -/
structure EndpointRun.Spares (state : EndpointRun) (handle : Nat) (step : EndpointStep) : Prop where
  noMessage : ∀ reply context, step = .putData reply → state.endpoint.find handle = some context → reply.token ≠ context.token
  notCancelled : step ≠ .cancelRequest handle
  noFailure : ∀ walk frames, state.frames = .putting handle walk :: frames → step ≠ .resume .failure

theorem EndpointRun.Ignores.spares {state : EndpointRun} {handle : Nat} {step : EndpointStep}
    (ignores : state.Ignores handle step) : state.Spares handle step :=
  ⟨ignores.noMessage, ignores.notCancelled, fun _ _ _ => ignores.noFailure⟩

/-- A request that waits goes on to wait until its timer fires. -/
theorem WaitsAt.step {state state' : EndpointRun} {handle : Nat} {pace : Pace} (lives : Lives state)
    (waits : WaitsAt state handle pace) {step : EndpointStep} (spares : state.Spares handle step) (notFired : step ≠ .timerFired handle)
    (steps : state.step step = .ok state') : WaitsAt state' handle pace := by
  cases step with
  | sendRequest resendTimeout maxResendCount =>
      exact Except.ok.inj steps ▸ waits.sendRequest resendTimeout maxResendCount
  | cancelRequest other =>
      have isOther : handle ≠ other := fun same => spares.notCancelled (by rw [same])
      rcases state.step_cancelRequest other with ⟨-, same⟩ | ⟨context, -, cancels⟩
      · rw [same] at steps
        exact Except.ok.inj steps ▸ waits
      · rw [cancels] at steps
        exact Except.ok.inj steps ▸ (waits.cancel isOther).log rfl
  | putData reply =>
      rw [← Except.ok.inj steps]
      unfold EndpointRun.putData
      split
      · exact waits
      · exact waits.onResponse lives (fun context found => spares.noMessage reply context rfl found)
  | timerFired other =>
      have isOther : handle ≠ other := fun same => notFired (by rw [same])
      exact Except.ok.inj steps ▸ waits.onTimerFired isOther
  | canPut => exact Except.ok.inj steps ▸ waits.sendPendingRequests
  | setDataSink connected =>
      rw [← Except.ok.inj steps]
      have connects := @WaitsAt.withEndpoint _ _ _ waits { state.endpoint with connectionSink := connected } rfl
      split
      · exact connects.sendPendingRequests
      · exact connects
  | resume result =>
      exact waits.resume lives (fun walk frames isTop isFailure => spares.noFailure walk frames isTop (by rw [isFailure])) steps

theorem Waits.step {state state' : EndpointRun} {handle left : Nat} (lives : Lives state) (waits : Waits state handle left)
    {step : EndpointStep} (ignores : state.Ignores handle step) (notFired : step ≠ .timerFired handle)
    (steps : state.step step = .ok state') : Waits state' handle left := by
  obtain ⟨pace, isLeft, paced⟩ := waits_iff.mp waits
  exact waits_iff.mpr ⟨pace, isLeft, paced.step lives ignores.spares notFired steps⟩

/-- The request is sent again, with twice the time. -/
def Pace.resent (pace : Pace) : Pace := ⟨pace.resendTimeout * 2, pace.resendCount + 1, pace.maxResendCount⟩

theorem Pace.left_resent {pace : Pace} (less : pace.resendCount < pace.maxResendCount) :
    pace.left = pace.resent.left + 1 := by
  have below := UInt8.lt_iff_toNat_lt.mp less
  have small := pace.maxResendCount.toNat_lt
  have next : (pace.resendCount + 1).toNat = pace.resendCount.toNat + 1 := by
    rw [UInt8.toNat_add]
    exact Nat.mod_eq_of_lt (by simp; omega)
  simp only [left, resent, next]
  omega

/-- The timer fires: the request is resent, or the listener is told. -/
theorem WaitsAt.fired {state state' : EndpointRun} {handle : Nat} {pace : Pace} (waits : WaitsAt state handle pace)
    (steps : state.step (.timerFired handle) = .ok state') :
    (pace.resendCount < pace.maxResendCount ∧ WaitsAt state' handle pace.resent ∧
      state' = { state with endpoint := state.endpoint.modify handle .resending }.sendPendingRequests) ∨
    (¬ pace.resendCount < pace.maxResendCount ∧ callbacks state'.history handle = [.error handle .timeout]) := by
  obtain ⟨context, found, scheduled, isState, rfl⟩ := waits.waiting
  rw [← Except.ok.inj steps]
  unfold EndpointRun.onTimerFired
  simp only [found]
  rw [if_neg (by simp [scheduled])]
  split
  · rename_i less
    refine .inl ⟨less, ?_, rfl⟩
    apply WaitsAt.sendPendingRequests
    refine ⟨waits.silent, context.resending, ?_, rfl, .inl rfl, rfl⟩
    rw [@CoapEndpoint.find_modify_self _ _ .resending (fun _ => rfl), found]
    rfl
  · rename_i notLess
    refine .inr ⟨notLess, ?_⟩
    simp [EndpointRun.push, EndpointRun.log, callbacks_concat, waits.silent, EndpointEvent.tellsListener]

theorem Waits.fired {state state' : EndpointRun} {handle left : Nat} (waits : Waits state handle left)
    (steps : state.step (.timerFired handle) = .ok state') :
    (∃ fewer, left = fewer + 1 ∧ Waits state' handle fewer) ∨ callbacks state'.history handle = [.error handle .timeout] := by
  obtain ⟨pace, rfl, paced⟩ := waits_iff.mp waits
  cases paced.fired steps with
  | inl resent =>
      obtain ⟨less, waits', -⟩ := resent
      exact .inl ⟨pace.resent.left, Pace.left_resent less, waits_iff.mpr ⟨pace.resent, rfl, waits'⟩⟩
  | inr told => exact .inr told.2

/-! ## What was told stays told -/

section

variable {state : EndpointRun} {earlier : List EndpointEvent}

theorem history_walked {state' : EndpointRun} {wasLocked : Bool} (grows : earlier <+: state.history)
    (walks : state' = state.release wasLocked ∨ ∃ context ∈ state.endpoint.requests, context.state = .readyToSend ∧
      ∃ next, state' = (state.log (.put context.handle)).push (.putting context.handle ⟨next, wasLocked⟩)) :
    earlier <+: state'.history := by
  rcases walks with rfl | ⟨context, -, -, next, rfl⟩
  · exact grows
  · exact grows.trans (List.prefix_append _ _)

theorem history_sendPendingRequests (grows : earlier <+: state.history) : earlier <+: state.sendPendingRequests.history :=
  @history_walked { state with endpoint := { state.endpoint with locked := true } } _ _ _ grows
    (EndpointRun.walkFrom_cases _ _ _)

theorem history_notify (grows : earlier <+: state.history) (handle : Nat) (reply : Reply) (wasLocked : Bool) :
    earlier <+: (state.notify handle reply wasLocked).history := by
  unfold EndpointRun.notify
  split
  · exact grows
  · exact grows.trans (List.prefix_append _ _)

end

theorem history_cancelRequest (state : EndpointRun) (handle : Nat) :
    (state.cancelRequest handle).1.history = state.history := by
  rcases cancelRequest_fst state handle with same | cancels
  · rw [same]
  · rw [cancels]

theorem history_onResponse (state : EndpointRun) (reply : Reply) : state.history <+: (state.onResponse reply).history := by
  unfold EndpointRun.onResponse
  simp only
  split
  · exact List.prefix_refl _
  · split
    · exact List.prefix_append _ _
    · apply history_notify
      exact List.prefix_refl _

theorem history_resume {state state' : EndpointRun} {result : PutResult} (resumes : state.resume result = .ok state') :
    state.history <+: state'.history := by
  unfold EndpointRun.resume at resumes
  split at resumes
  · exact Except.ok.inj resumes ▸ List.prefix_refl _
  · rename_i handle walk frames isTop
    cases result with
    | wouldBlock => exact Except.ok.inj resumes ▸ List.prefix_refl _
    | failure =>
        obtain ⟨-, -, fails⟩ := bind_ok resumes
        exact Except.ok.inj fails ▸ List.prefix_append _ _
    | success =>
        obtain ⟨-, -, continues⟩ := bind_ok resumes
        exact Except.ok.inj continues ▸ history_walked (List.prefix_append _ _) (EndpointRun.continueWalk_cases _ _)
  · rename_i handle walk frames isTop
    rw [← Except.ok.inj resumes]
    apply history_walked _ (EndpointRun.continueWalk_cases _ _)
    exact ⟨[], (List.append_nil _).trans (history_cancelRequest { state with frames := frames } handle).symm⟩
  · obtain ⟨-, -, notifies⟩ := bind_ok resumes
    rw [← Except.ok.inj notifies]
    apply history_notify
    exact List.prefix_refl _
  · obtain ⟨-, -, cancels⟩ := bind_ok resumes
    exact Except.ok.inj cancels ▸ List.prefix_refl _
  · rename_i handle frames isTop
    rw [← Except.ok.inj resumes]
    exact ⟨[], (List.append_nil _).trans (history_cancelRequest { state with frames := frames } handle).symm⟩

/-- A step takes nothing back. -/
theorem history_step {state state' : EndpointRun} {step : EndpointStep} (steps : state.step step = .ok state') :
    state.history <+: state'.history := by
  cases step with
  | sendRequest resendTimeout maxResendCount =>
      exact Except.ok.inj steps ▸ history_sendPendingRequests (List.prefix_append _ _)
  | cancelRequest handle =>
      rcases state.step_cancelRequest handle with ⟨-, same⟩ | ⟨context, -, cancels⟩
      · rw [same] at steps
        exact Except.ok.inj steps ▸ List.prefix_refl _
      · rw [cancels] at steps
        exact Except.ok.inj steps ▸ List.prefix_append _ _
  | putData reply =>
      rw [← Except.ok.inj steps]
      unfold EndpointRun.putData
      split
      · exact List.prefix_refl _
      · exact history_onResponse state reply
  | timerFired handle =>
      rw [← Except.ok.inj steps]
      unfold EndpointRun.onTimerFired
      split
      · exact List.prefix_refl _
      · split
        · exact List.prefix_refl _
        · split
          · exact history_sendPendingRequests (List.prefix_refl _)
          · exact List.prefix_append _ _
  | canPut => exact Except.ok.inj steps ▸ history_sendPendingRequests (List.prefix_refl _)
  | setDataSink connected =>
      rw [← Except.ok.inj steps]
      split
      · exact history_sendPendingRequests (List.prefix_refl _)
      · exact List.prefix_refl _
  | resume result => exact history_resume steps

/-- Nothing is told after a timeout. -/
theorem Orderly.told {handle : Nat} {error : Error} {later : List EndpointEvent}
    (orderly : Orderly handle ([EndpointEvent.error handle error] ++ later)) : later = [] := by
  rcases orderly with none | acked | answered | ⟨_, failed | failed⟩
  · exact nomatch none
  · exact nomatch acked
  · exact nomatch answered
  · exact (List.cons.inj failed).2
  · exact nomatch failed

/-! ## Endless runs -/

/-- An endless run of an endpoint, in which no call-out is disturbed. -/
structure EndlessRun (start : EndpointRun) (states : Nat → EndpointRun) (steps : Nat → EndpointStep) : Prop where
  start : states 0 = start
  runs : ∀ n, (states n).step (steps n) = .ok (states (n + 1))
  undisturbed : ∀ n, (states n).Undisturbed (steps n)

/-- A timer that is scheduled fires, unless it is not scheduled any more. -/
def FiresWhenDue (states : Nat → EndpointRun) (steps : Nat → EndpointStep) (handle : Nat) : Prop :=
  ∀ n, (states n).Scheduled handle → ∃ m, n ≤ m ∧ (steps m = .timerFired handle ∨ ¬ (states m).Scheduled handle)

/-- A new request waits for its first resend. -/
theorem waitsAt_sendRequest {state : EndpointRun} (lives : Lives state) (resendTimeout : UInt32) (maxResendCount : Nat) :
    WaitsAt (state.sendRequest resendTimeout maxResendCount) (state.endpoint.tokenCounter + 1)
      ⟨resendTimeout, 0, UInt8.ofNat maxResendCount⟩ := by
  unfold EndpointRun.sendRequest
  apply WaitsAt.sendPendingRequests
  refine ⟨lives.silent_created maxResendCount, ⟨state.endpoint.tokenCounter + 1,
    state.endpoint.tokenPrefix ++ bytesFromInt32Be (UInt32.ofNat state.endpoint.tokenCounter), .readyToSend, some true,
    resendTimeout, 0, UInt8.ofNat maxResendCount⟩, ?_, rfl, .inl rfl, rfl⟩
  unfold CoapEndpoint.find
  rw [List.find?_append, List.find?_eq_none.mpr]
  · simp
  · intro context member
    have known := lives.sound.known context member
    simp
    omega

/-- A new request waits, with all of its resends left. -/
theorem waits_sendRequest {state : EndpointRun} (lives : Lives state) (resendTimeout : UInt32) (maxResendCount : Nat) :
    Waits (state.sendRequest resendTimeout maxResendCount) (state.endpoint.tokenCounter + 1) (maxResendCount % 256) :=
  waits_iff.mpr ⟨_, by simp [Pace.left], waitsAt_sendRequest lives resendTimeout maxResendCount⟩

namespace EndlessRun

variable {start : EndpointRun} {states : Nat → EndpointRun} {steps : Nat → EndpointStep} {handle : Nat}

theorem lives (run : EndlessRun start states steps) (initially : Lives start) (n : Nat) : Lives (states n) := by
  induction n with
  | zero => exact run.start ▸ initially
  | succ n ih => exact ih.step (run.undisturbed n) (run.runs n)

/-- A request waits until its timer fires, which it does. -/
theorem nextFiring (run : EndlessRun start states steps) (initially : Lives start) {n : Nat} {pace : Pace}
    (spares : ∀ m, n ≤ m → (states m).Spares handle (steps m)) (fair : FiresWhenDue states steps handle)
    (waits : WaitsAt (states n) handle pace) :
    ∃ m, n ≤ m ∧ steps m = .timerFired handle ∧ WaitsAt (states m) handle pace ∧
      ∀ earlier, n ≤ earlier → earlier < m → steps earlier ≠ .timerFired handle := by
  obtain ⟨due, isLater, isDue⟩ := fair n waits.scheduled
  -- until the timer is due at the latest
  obtain ⟨distance, rfl⟩ := Nat.exists_eq_add_of_le isLater
  clear isLater
  induction distance generalizing n with
  | zero =>
      cases isDue with
      | inl isFired => exact ⟨n, Nat.le_refl _, isFired, waits, fun _ later earlier => absurd later (Nat.not_le.mpr earlier)⟩
      | inr notScheduled => exact absurd waits.scheduled notScheduled
  | succ distance ih =>
      by_cases isFired : steps n = .timerFired handle
      · exact ⟨n, Nat.le_refl _, isFired, waits, fun _ later earlier => absurd later (Nat.not_le.mpr earlier)⟩
      · have waits' := waits.step (run.lives initially n) (spares n (Nat.le_refl _)) isFired (run.runs n)
        rw [Nat.add_comm distance 1, ← Nat.add_assoc] at isDue
        obtain ⟨m, isLater, fires, waits'', none_⟩ := ih (fun m later => spares m (Nat.le_of_succ_le later)) waits' isDue
        refine ⟨m, Nat.le_of_succ_le isLater, fires, waits'', fun earlier later before => ?_⟩
        rcases Nat.eq_or_lt_of_le later with rfl | later
        · exact isFired
        · exact none_ earlier later before

theorem fires (run : EndlessRun start states steps) (initially : Lives start) {n left : Nat}
    (ignores : ∀ m, n ≤ m → (states m).Ignores handle (steps m)) (fair : FiresWhenDue states steps handle)
    (waits : Waits (states n) handle left) : ∃ m, n ≤ m ∧ steps m = .timerFired handle ∧ Waits (states m) handle left := by
  obtain ⟨pace, isLeft, paced⟩ := waits_iff.mp waits
  obtain ⟨m, isLater, isFired, paced', -⟩ := run.nextFiring initially (fun m later => (ignores m later).spares) fair paced
  exact ⟨m, isLater, isFired, waits_iff.mpr ⟨pace, isLeft, paced'⟩⟩

/-- After the last resend the listener is told. -/
theorem timesOut (run : EndlessRun start states steps) (initially : Lives start) {n left : Nat}
    (ignores : ∀ m, n ≤ m → (states m).Ignores handle (steps m)) (fair : FiresWhenDue states steps handle)
    (waits : Waits (states n) handle left) : ∃ m, callbacks (states m).history handle = [.error handle .timeout] := by
  induction left generalizing n with
  | zero =>
      obtain ⟨m, -, isFired, waits'⟩ := run.fires initially ignores fair waits
      rcases waits'.fired (isFired ▸ run.runs m) with ⟨fewer, isLeft, -⟩ | told
      · exact nomatch isLeft
      · exact ⟨m + 1, told⟩
  | succ left ih =>
      obtain ⟨m, isLater, isFired, waits'⟩ := run.fires initially ignores fair waits
      rcases waits'.fired (isFired ▸ run.runs m) with ⟨fewer, isLeft, waits''⟩ | told
      · rw [← Nat.succ.inj isLeft] at waits''
        exact ih (fun m' later => ignores m' (by omega)) waits''
      · exact ⟨m + 1, told⟩

/-- Nothing is told after that. -/
theorem staysTold (run : EndlessRun start states steps) (initially : Lives start) {n : Nat} {error : Error}
    (told : callbacks (states n).history handle = [.error handle error]) {m : Nat} (later : n ≤ m) :
    callbacks (states m).history handle = [.error handle error] := by
  induction m, later using Nat.le_induction with
  | base => exact told
  | succ m _ ih =>
      obtain ⟨new, isHistory⟩ := history_step (run.runs m)
      have orderly := ((run.lives initially (m + 1)).life handle).orderly
      have split : callbacks (states (m + 1)).history handle = [EndpointEvent.error handle error] ++ callbacks new handle := by
        rw [← isHistory, ← ih]
        exact List.filter_append ..
      rw [split] at orderly ⊢
      rw [orderly.told]
      rfl

end EndlessRun

/-- Listeners and a sink that do not call the endpoint again. Whatever the messages, timers, results
    of the sink and cancellations are, every listener is called in order: at most one `OnAck`, then at
    most one of `OnResponse` and `OnError`, and nothing after that; and its request is taken by the sink
    at most once more than it may be resent. If nothing is done to a request and its timer fires when
    it is due, then the listener is told of a timeout, and of nothing else. -/
theorem lifecycle_of_run (tokenPrefix : List UInt8) (tokenCounter : Nat) (connectionSink : Bool) :
    (∀ steps, (EndpointRun.create tokenPrefix tokenCounter connectionSink).Permits EndpointRun.Undisturbed steps →
      ∃ state, (EndpointRun.create tokenPrefix tokenCounter connectionSink).run steps = .ok state ∧
        ∀ handle, Orderly handle (callbacks state.history handle) ∧
          ∀ max, .created handle max ∈ state.history → state.history.count (.sent handle) ≤ 1 + max % 256) ∧
    ∀ states steps, EndlessRun (EndpointRun.create tokenPrefix tokenCounter connectionSink) states steps →
      ∀ n resendTimeout maxResendCount, steps n = .sendRequest resendTimeout maxResendCount →
        ∀ handle, handle = (states n).endpoint.tokenCounter + 1 →
          (∀ m, n < m → (states m).Ignores handle (steps m)) → FiresWhenDue states steps handle →
            ∃ last, ∀ m, last ≤ m → callbacks (states m).history handle = [.error handle .timeout] := by
  have initially := lives_create tokenPrefix tokenCounter connectionSink
  refine ⟨?_, ?_⟩
  · intro steps permits
    obtain ⟨state, runs, lives⟩ := initially.run permits
    exact ⟨state, runs, fun handle => ⟨(lives.life handle).orderly, (lives.life handle).bounded⟩⟩
  · intro states steps run n resendTimeout maxResendCount isSend handle isHandle ignores fair
    have isNext := run.runs n
    rw [isSend] at isNext
    have waits := waits_sendRequest (run.lives initially n) resendTimeout maxResendCount
    rw [Except.ok.inj isNext, ← isHandle] at waits
    obtain ⟨last, told⟩ := run.timesOut initially ignores fair waits
    exact ⟨last, fun m later => run.staysTold initially told later⟩

/-! ## Runs that end

After its last step a run goes on for ever, with notifications that change nothing.
-/

/-- The states of an endpoint after some steps. -/
def EndpointRun.after (start : EndpointRun) (steps : List EndpointStep) (n : Nat) : EndpointRun :=
  match start.run (steps.take n) with
  | .ok state => state
  | .error _ => start

section After

variable {start : EndpointRun} {steps : List EndpointStep}

theorem after_end {n : Nat} (later : steps.length ≤ n) : start.after steps n = start.after steps steps.length := by
  unfold EndpointRun.after
  rw [List.take_of_length_le later, List.take_length]

theorem endless_after
    (early : ∀ n < steps.length, (start.after steps n).step (steps.getD n .canPut) = .ok (start.after steps (n + 1)) ∧
      (start.after steps n).Undisturbed (steps.getD n .canPut))
    (late : (start.after steps steps.length).step .canPut = .ok (start.after steps steps.length) ∧
      (start.after steps steps.length).Undisturbed .canPut) :
    EndlessRun start (start.after steps) (fun n => steps.getD n .canPut) := by
  have all : ∀ n, (start.after steps n).step (steps.getD n .canPut) = .ok (start.after steps (n + 1)) ∧
      (start.after steps n).Undisturbed (steps.getD n .canPut) := by
    intro n
    rcases Nat.lt_or_ge n steps.length with less | later
    · exact early n less
    · rw [after_end later, after_end (Nat.le_succ_of_le later), List.getD_eq_default _ _ later]
      exact late
  exact ⟨rfl, fun n => (all n).1, fun n => (all n).2⟩

/-- The request of a run that ends without it is not due any more. -/
theorem firesWhenDue_after {handle : Nat} (gone : (start.after steps steps.length).endpoint.find handle = none) :
    FiresWhenDue (start.after steps) (fun n => steps.getD n .canPut) handle := by
  intro n _
  refine ⟨max n steps.length, Nat.le_max_left _ _, .inr ?_⟩
  rw [after_end (Nat.le_max_right _ _)]
  rintro ⟨context, found, -⟩
  rw [gone] at found
  exact nomatch found

/-- Steps that do nothing to a request. -/
def EndpointStep.IsHarmless (handle : Nat) (step : EndpointStep) : Prop :=
  (∀ reply, step ≠ .putData reply) ∧ step ≠ .cancelRequest handle ∧ step ≠ .resume .failure

theorem ignores_after {handle : Nat} (harmless : ∀ step ∈ steps, step.IsHarmless handle) (m : Nat) :
    (start.after steps m).Ignores handle (steps.getD m .canPut) := by
  have isHarmless : (steps.getD m .canPut).IsHarmless handle := by
    rcases Nat.lt_or_ge m steps.length with less | later
    · rw [List.getD_eq_getElem _ _ less]
      exact harmless _ (List.getElem_mem less)
    · rw [List.getD_eq_default _ _ later]
      simp [EndpointStep.IsHarmless]
  obtain ⟨noMessage, notCancelled, noFailure⟩ := isHarmless
  exact ⟨fun reply _ isMessage => absurd isMessage (noMessage reply), notCancelled, noFailure⟩

end After

/-- A request is sent, resent once and given up. -/
def unansweredSteps : List EndpointStep :=
  [.sendRequest 1000 1, .resume .success, .timerFired 1, .resume .success, .timerFired 1, .resume .success]

/-- The states of an endpoint that goes on for ever after that. -/
def unanswered (n : Nat) : EndpointRun :=
  match (EndpointRun.create [] 0 true).run (unansweredSteps.take n) with
  | .ok state => state
  | .error _ => EndpointRun.create [] 0 true

theorem unanswered_endless :
    EndlessRun (EndpointRun.create [] 0 true) unanswered (fun n => unansweredSteps.getD n .canPut) :=
  @endless_after (EndpointRun.create [] 0 true) unansweredSteps (by decide +kernel) (by decide +kernel)

theorem lifecycle_unansweredSteps :
    (∃ state, (EndpointRun.create [] 0 true).run unansweredSteps = .ok state ∧
      EndpointEvent.created 1 1 ∈ state.history ∧ state.history.count (.sent 1) ≤ 2) ∧
    ∃ last, ∀ m, last ≤ m → callbacks (unanswered m).history 1 = [.error 1 .timeout] := by
  obtain ⟨orderly, timesOut⟩ := lifecycle_of_run [] 0 true
  refine ⟨?_, ?_⟩
  · obtain ⟨state, runs, lives⟩ := orderly unansweredSteps (by decide +kernel)
    have seen : ((EndpointRun.create [] 0 true).run unansweredSteps).map
        (fun state => decide (EndpointEvent.created 1 1 ∈ state.history)) = .ok true := by
      decide +kernel
    rw [runs] at seen
    have isCreated : EndpointEvent.created 1 1 ∈ state.history := by simpa using Except.ok.inj seen
    exact ⟨state, runs, isCreated, (lives 1).2 1 isCreated⟩
  · apply timesOut unanswered _ unanswered_endless 0 1000 1 rfl 1 rfl
    · exact fun m _ => @ignores_after (EndpointRun.create [] 0 true) unansweredSteps 1
        (by simp [unansweredSteps, EndpointStep.IsHarmless]) m
    · exact @firesWhenDue_after (EndpointRun.create [] 0 true) unansweredSteps 1 (by decide +kernel)

end GoldenGate.Coap
