import GoldenGate.Coap.EndpointFrames

/-! # Cancelled requests

A request that the application has cancelled is marked until nobody walks over the requests any
more. Its listener is left alone and nothing is sent for it, unless one of the places that do not
look at the mark is reached: the part of `GG_CoapEndpoint_OnResponse` after `OnAck`, the search for
the token of a message, the end of `GG_CoapRequestContext_TryToSend`, and the resend timer.
-/

namespace GoldenGate.Coap

open Memory

/-- The listener of the request is called, or something is sent for it. -/
def EndpointEvent.Concerns (handle : Nat) : EndpointEvent → Prop
  | .put handle' | .sent handle' | .ack handle' | .response handle' | .error handle' _ => handle' = handle
  | .created _ _ | .cancel _ => False

/-- After a request was cancelled nothing concerns it. -/
def SilentAfterCancel (history : List EndpointEvent) : Prop :=
  ∀ (earlier : List EndpointEvent) (handle : Nat) (later : List EndpointEvent),
    history = earlier ++ EndpointEvent.cancel handle :: later → ∀ event ∈ later, ¬ event.Concerns handle

/-- The listener is told of a response or an error when its `OnAck` returns. -/
def Frame.tells (handle : Nat) : Frame → Bool
  | .acking handle' reply _ => handle' = handle && !reply.isEmptyAck
  | _ => false

/-- The sink does not take a request and does not fail, if the request was cancelled meanwhile. -/
def Frame.MayReturn (history : List EndpointEvent) (result : PutResult) : Frame → Prop
  | .putting handle _ => .cancel handle ∈ history → result = .wouldBlock
  | _ => True

instance (history : List EndpointEvent) (result : PutResult) : ∀ frame : Frame, Decidable (frame.MayReturn history result)
  | .putting _ _ => inferInstanceAs (Decidable (_ → _))
  | .failing _ _ | .acking _ _ _ | .responding _ _ | .timingOut _ => inferInstanceAs (Decidable True)

namespace EndpointRun

/-- The steps that do not meet a cancelled request where nobody looks at its mark: it is not
    cancelled in its own `OnAck` with a response to follow; no message has its token and its timer
    does not fire while its context is there; and if it is cancelled inside of its own
    `GG_DataSink_PutData`, then the sink does not take it and does not fail. -/
def MayCancel (state : EndpointRun) : EndpointStep → Prop
  | .cancelRequest handle => ∀ frame ∈ state.frames, frame.tells handle = false
  | .putData reply => messageCodeClass reply.code ≠ codeClassRequest →
      ∀ context ∈ state.endpoint.requests.find? (·.token = reply.token), .cancel context.handle ∉ state.history
  | .timerFired handle =>
      ∀ context ∈ state.endpoint.find handle, context.resendTimer = some true → .cancel handle ∉ state.history
  | .resume result => ∀ frame ∈ state.frames.head?, frame.MayReturn state.history result
  | .sendRequest _ _ | .canPut | .setDataSink _ => True

instance (state : EndpointRun) : ∀ step, Decidable (state.MayCancel step)
  | .cancelRequest handle => inferInstanceAs (Decidable (∀ frame ∈ state.frames, frame.tells handle = false))
  | .putData reply => inferInstanceAs (Decidable (messageCodeClass reply.code ≠ codeClassRequest →
      ∀ context ∈ state.endpoint.requests.find? (·.token = reply.token), .cancel context.handle ∉ state.history))
  | .timerFired handle => inferInstanceAs (Decidable (∀ context ∈ state.endpoint.find handle,
      context.resendTimer = some true → .cancel handle ∉ state.history))
  | .resume result => inferInstanceAs (Decidable (∀ frame ∈ state.frames.head?, frame.MayReturn state.history result))
  | .sendRequest _ _ | .canPut | .setDataSink _ => inferInstanceAs (Decidable True)

/-- All the steps of a run may be taken. -/
def Permits (may : EndpointRun → EndpointStep → Prop) (state : EndpointRun) : List EndpointStep → Prop
  | [] => True
  | step :: steps => may state step ∧ ∀ state', state.step step = .ok state' → state'.Permits may steps

instance decidablePermits (may : EndpointRun → EndpointStep → Prop) [∀ state step, Decidable (may state step)]
    (state : EndpointRun) : ∀ steps, Decidable (state.Permits may steps)
  | [] => inferInstanceAs (Decidable True)
  | _ :: steps =>
      have := fun (state' : EndpointRun) => decidablePermits may state' steps
      inferInstanceAs (Decidable (_ ∧ _))

end EndpointRun

/-! ## The invariant -/

/-- Cancelled requests are marked or gone. -/
structure Quiet (state : EndpointRun) : Prop where
  marked : ∀ context ∈ state.endpoint.requests, .cancel context.handle ∈ state.history → context.state = .cancelled
  acks : ∀ handle reply wasLocked, .acking handle reply wasLocked ∈ state.frames → .cancel handle ∈ state.history →
    reply.isEmptyAck = true
  known : ∀ handle, .cancel handle ∈ state.history → handle ≤ state.endpoint.tokenCounter
  silent : SilentAfterCancel state.history

/-- Where a history that has grown can be cut. -/
theorem split_concat {history earlier later : List EndpointEvent} {event mark : EndpointEvent}
    (split : history ++ [event] = earlier ++ mark :: later) :
    later = [] ∨ ∃ before, later = before ++ [event] ∧ history = earlier ++ mark :: before := by
  rcases List.eq_nil_or_concat later with rfl | ⟨before, last, rfl⟩
  · exact .inl rfl
  · rw [List.concat_eq_append, ← List.cons_append, ← List.append_assoc] at split
    obtain ⟨isHistory, rfl⟩ := List.append_singleton_inj.mp split
    exact .inr ⟨before, List.concat_eq_append, isHistory⟩

theorem SilentAfterCancel.concat {history : List EndpointEvent} (silent : SilentAfterCancel history)
    {event : EndpointEvent} (other : ∀ handle, .cancel handle ∈ history → ¬ event.Concerns handle) :
    SilentAfterCancel (history ++ [event]) := by
  intro earlier handle later split event' member
  rcases split_concat split with rfl | ⟨before, rfl, rfl⟩
  · exact nomatch member
  · rcases List.mem_append.mp member with old | new
    · exact silent earlier handle before rfl event' old
    · rw [List.mem_singleton.mp new]
      exact other handle (by simp)

namespace Quiet

variable {state : EndpointRun}

theorem log (quiet : Quiet state) {event : EndpointEvent} (notCancel : ∀ handle, event ≠ .cancel handle)
    (other : ∀ handle, .cancel handle ∈ state.history → ¬ event.Concerns handle) : Quiet (state.log event) := by
  have same : ∀ handle, .cancel handle ∈ (state.log event).history ↔ .cancel handle ∈ state.history := by
    intro handle
    have differs : .cancel handle ≠ event := fun isEvent => notCancel handle isEvent.symm
    simp [EndpointRun.log, differs]
  refine ⟨?_, ?_, ?_, quiet.silent.concat other⟩
  · intro context member isCancelled
    exact quiet.marked context member ((same _).mp isCancelled)
  · intro handle reply wasLocked member isCancelled
    exact quiet.acks handle reply wasLocked member ((same _).mp isCancelled)
  · intro handle isCancelled
    exact quiet.known handle ((same _).mp isCancelled)

/-- An event of a request that was not cancelled. -/
theorem logOf (quiet : Quiet state) {handle : Nat} (notCancelled : .cancel handle ∉ state.history) {event : EndpointEvent}
    (isOf : event = .put handle ∨ event = .sent handle ∨ event = .ack handle ∨ event = .response handle ∨
      ∃ error, event = .error handle error) : Quiet (state.log event) := by
  apply quiet.log
  · intro handle'
    rcases isOf with rfl | rfl | rfl | rfl | ⟨error, rfl⟩ <;> simp
  · intro handle' isCancelled concerns
    have same : handle = handle' := by
      rcases isOf with rfl | rfl | rfl | rfl | ⟨error, rfl⟩ <;> exact concerns
    exact notCancelled (same ▸ isCancelled)

theorem push (quiet : Quiet state) {frame : Frame}
    (acks : ∀ handle reply wasLocked, frame = .acking handle reply wasLocked → .cancel handle ∈ state.history →
      reply.isEmptyAck = true) : Quiet (state.push frame) := by
  refine ⟨quiet.marked, ?_, quiet.known, quiet.silent⟩
  intro handle reply wasLocked member isCancelled
  rcases List.mem_cons.mp member with same | below
  · exact acks handle reply wasLocked same.symm isCancelled
  · exact quiet.acks handle reply wasLocked below isCancelled

theorem pop (quiet : Quiet state) {frame : Frame} {frames : List Frame} (isTop : state.frames = frame :: frames) :
    Quiet { state with frames := frames } := by
  refine ⟨quiet.marked, ?_, quiet.known, quiet.silent⟩
  intro handle reply wasLocked member
  exact quiet.acks handle reply wasLocked (by rw [isTop]; exact List.mem_cons_of_mem _ member)

theorem withEndpoint (quiet : Quiet state) {endpoint : CoapEndpoint}
    (counter : state.endpoint.tokenCounter ≤ endpoint.tokenCounter)
    (marked : ∀ context ∈ endpoint.requests, .cancel context.handle ∈ state.history → context.state = .cancelled) :
    Quiet { state with endpoint := endpoint } :=
  ⟨marked, quiet.acks, fun handle isCancelled => Nat.le_trans (quiet.known handle isCancelled) counter, quiet.silent⟩

/-- A context is changed, and it was not cancelled or still is. -/
theorem modify (quiet : Quiet state) {handle : Nat} {f : CoapRequestContext → CoapRequestContext}
    (keeps : ∀ context, (f context).handle = context.handle)
    (marks : .cancel handle ∈ state.history → ∀ context, (f context).state = .cancelled) :
    Quiet { state with endpoint := state.endpoint.modify handle f } := by
  refine quiet.withEndpoint (by exact Nat.le_refl _) ?_
  intro context member isCancelled
  obtain ⟨original, isOriginal, rfl⟩ := List.mem_map.mp member
  split
  · rename_i isIt
    rw [if_pos isIt, keeps, isIt] at isCancelled
    exact marks isCancelled original
  · rename_i isOther
    rw [if_neg isOther] at isCancelled
    exact quiet.marked original isOriginal isCancelled

theorem release (quiet : Quiet state) (wasLocked : Bool) : Quiet (state.release wasLocked) := by
  unfold EndpointRun.release CoapEndpoint.release
  split
  · exact quiet
  · refine quiet.withEndpoint (by exact Nat.le_refl _) ?_
    intro context member
    exact quiet.marked context (List.mem_filter.mp member).1

theorem cancel (quiet : Quiet state) (handle : Nat) :
    Quiet { state with endpoint := state.endpoint.cancel handle } := by
  unfold CoapEndpoint.cancel
  split
  · exact quiet.modify (fun _ => rfl) (fun _ _ => rfl)
  · refine quiet.withEndpoint (by exact Nat.le_refl _) ?_
    intro context member
    exact quiet.marked context (List.mem_filter.mp member).1

theorem cancelRequest (quiet : Quiet state) (handle : Nat) : Quiet (state.cancelRequest handle).1 := by
  rcases cancelRequest_fst state handle with same | cancels
  · rw [same]
    exact quiet
  · rw [cancels]
    exact quiet.cancel handle

/-- A request that is ready to be sent was not cancelled. -/
theorem walked {state' : EndpointRun} {wasLocked : Bool} (quiet : Quiet state)
    (walks : state' = state.release wasLocked ∨ ∃ context ∈ state.endpoint.requests, context.state = .readyToSend ∧
      ∃ next, state' = (state.log (.put context.handle)).push (.putting context.handle ⟨next, wasLocked⟩)) :
    Quiet state' := by
  rcases walks with rfl | ⟨context, member, isReady, next, rfl⟩
  · exact quiet.release wasLocked
  · have notCancelled : .cancel context.handle ∉ state.history := by
      intro isCancelled
      exact nomatch isReady.symm.trans (quiet.marked context member isCancelled)
    apply (quiet.logOf notCancelled (.inl rfl)).push
    intro handle reply wasLocked' same
    exact nomatch same

theorem sendPendingRequests (quiet : Quiet state) : Quiet state.sendPendingRequests := by
  have locked : Quiet { state with endpoint := { state.endpoint with locked := true } } :=
    ⟨quiet.marked, quiet.acks, quiet.known, quiet.silent⟩
  exact locked.walked (EndpointRun.walkFrom_cases _ _ _)

theorem sendRequest (quiet : Quiet state) (resendTimeout : UInt32) (maxResendCount : Nat) :
    Quiet (state.sendRequest resendTimeout maxResendCount) := by
  apply Quiet.sendPendingRequests
  have created : Quiet (state.log (.created (state.endpoint.tokenCounter + 1) maxResendCount)) := by
    apply quiet.log <;> simp [EndpointEvent.Concerns]
  refine created.withEndpoint (by exact Nat.le_succ _) ?_
  intro context member isCancelled
  rcases List.mem_append.mp member with old | new
  · exact created.marked context old isCancelled
  · -- no handle was cancelled before it was given out
    have le := created.known context.handle isCancelled
    rw [List.mem_singleton.mp new] at le
    exact absurd le (Nat.not_succ_le_self _)

theorem onTimerFired (quiet : Quiet state) {handle : Nat} (may : state.MayCancel (.timerFired handle)) :
    Quiet (state.onTimerFired handle) := by
  unfold EndpointRun.onTimerFired
  split
  · exact quiet
  · rename_i context found
    split
    · exact quiet
    · rename_i scheduled
      have notCancelled := may context found (by simpa using scheduled)
      split
      · exact Quiet.sendPendingRequests (quiet.modify (fun _ => rfl) (fun isCancelled => absurd isCancelled notCancelled))
      · have logged := quiet.logOf notCancelled (.inr (.inr (.inr (.inr ⟨.timeout, rfl⟩))))
        have notCancelled' : .cancel handle ∉ (state.log (.error handle .timeout)).history := by
          simpa [EndpointRun.log] using notCancelled
        have due := @Quiet.modify _ logged handle CoapRequestContext.timerDue (fun _ => rfl)
          (fun isCancelled => absurd isCancelled notCancelled')
        apply due.push
        intro handle' reply wasLocked same
        exact nomatch same

theorem notify (quiet : Quiet state) {handle : Nat} {reply : Reply}
    (notCancelled : reply.isEmptyAck = false → .cancel handle ∉ state.history) (wasLocked : Bool) :
    Quiet (state.notify handle reply wasLocked) := by
  unfold EndpointRun.notify
  split
  · exact quiet.release wasLocked
  · rename_i notEmpty
    refine Quiet.push (quiet.logOf (notCancelled (by simpa using notEmpty)) ?_) ?_
    · unfold Reply.event
      split
      · exact .inr (.inr (.inr (.inr ⟨_, rfl⟩)))
      · split
        · exact .inr (.inr (.inr (.inr ⟨_, rfl⟩)))
        · exact .inr (.inr (.inr (.inl rfl)))
    · intro handle' reply' wasLocked' same
      exact nomatch same

theorem onResponse (quiet : Quiet state) {reply : Reply}
    (notCancelled : ∀ context, state.endpoint.requests.find? (·.token = reply.token) = some context →
      .cancel context.handle ∉ state.history) : Quiet (state.onResponse reply) := by
  have locked : Quiet { state with endpoint := { state.endpoint with locked := true } } :=
    ⟨quiet.marked, quiet.acks, quiet.known, quiet.silent⟩
  unfold EndpointRun.onResponse
  simp only
  split
  · exact locked.release _
  · rename_i context found
    have notCancelled := notCancelled context found
    have answered := @Quiet.modify _ locked context.handle (·.answered reply) (fun _ => rfl)
      (fun isCancelled => absurd isCancelled notCancelled)
    split
    · refine Quiet.push (answered.logOf notCancelled (.inr (.inr (.inl rfl)))) ?_
      intro handle reply' wasLocked same isCancelled
      obtain ⟨rfl, -, -⟩ := Frame.acking.inj same
      exact absurd isCancelled (by simpa [EndpointRun.log] using notCancelled)
    · exact answered.notify (fun _ => notCancelled) _

theorem resume {state' : EndpointRun} {result : PutResult} (quiet : Quiet state) (may : state.MayCancel (.resume result))
    (resumes : state.resume result = .ok state') : Quiet state' := by
  unfold EndpointRun.resume at resumes
  split at resumes
  · rw [← Except.ok.inj resumes]
    exact quiet
  · rename_i handle walk frames isTop
    have popped := quiet.pop isTop
    have notCancelled : result ≠ .wouldBlock → .cancel handle ∉ state.history := by
      intro notBlocked isCancelled
      have mayReturn : Frame.MayReturn state.history result (.putting handle walk) := may _ (by rw [isTop]; rfl)
      exact notBlocked (mayReturn isCancelled)
    cases result with
    | wouldBlock =>
        rw [← Except.ok.inj resumes]
        exact popped.release _
    | failure =>
        obtain ⟨_, -, resumes⟩ := bind_ok resumes
        rw [← Except.ok.inj resumes]
        refine Quiet.push (popped.logOf (notCancelled (by decide)) (.inr (.inr (.inr (.inr ⟨_, rfl⟩))))) ?_
        intro handle' reply wasLocked same
        exact nomatch same
    | success =>
        obtain ⟨_, -, resumes⟩ := bind_ok resumes
        rw [← Except.ok.inj resumes]
        have notCancelled := notCancelled (by decide)
        have sent := @Quiet.modify _ popped handle ({ · with state := .waitingForAck }) (fun _ => rfl)
          (fun isCancelled => absurd isCancelled notCancelled)
        exact Quiet.walked (sent.logOf notCancelled (.inr (.inl rfl))) (EndpointRun.continueWalk_cases _ _)
  · rename_i handle walk frames isTop
    rw [← Except.ok.inj resumes]
    exact ((quiet.pop isTop).cancelRequest handle).walked (EndpointRun.continueWalk_cases _ _)
  · rename_i handle reply wasLocked frames isTop
    obtain ⟨_, -, resumes⟩ := bind_ok resumes
    rw [← Except.ok.inj resumes]
    apply (quiet.pop isTop).notify
    intro notEmpty isCancelled
    have empty := quiet.acks handle reply wasLocked (by rw [isTop]; exact List.mem_cons_self) isCancelled
    rw [notEmpty] at empty
    exact nomatch empty
  · rename_i handle wasLocked frames isTop
    obtain ⟨_, -, resumes⟩ := bind_ok resumes
    rw [← Except.ok.inj resumes]
    exact ((quiet.pop isTop).cancel handle).release _
  · rename_i handle frames isTop
    rw [← Except.ok.inj resumes]
    exact (quiet.pop isTop).cancelRequest handle

/-- The application cancels a request: it is marked or destroyed at once. -/
theorem step_cancelRequest {state' : EndpointRun} {handle : Nat} (sound : Sound state) (quiet : Quiet state)
    (may : state.MayCancel (.cancelRequest handle)) (steps : state.step (.cancelRequest handle) = .ok state') :
    Quiet state' := by
  rcases EndpointRun.step_cancelRequest state handle with ⟨-, same⟩ | ⟨context, found, cancels⟩
  · rw [same] at steps
    rw [← Except.ok.inj steps]
    exact quiet
  · rw [cancels] at steps
    rw [← Except.ok.inj steps]
    have cancelled := quiet.cancel handle
    have either : ∀ handle', .cancel handle' ∈ state.history ++ [EndpointEvent.cancel handle] →
        .cancel handle' ∈ state.history ∨ handle' = handle := by
      intro handle' member
      rcases List.mem_append.mp member with old | new
      · exact .inl old
      · exact .inr (EndpointEvent.cancel.inj (List.mem_singleton.mp new))
    refine ⟨?_, ?_, ?_, quiet.silent.concat (fun _ _ concerns => concerns)⟩
    · intro context' member isCancelled
      rcases either _ isCancelled with old | isIt
      · exact cancelled.marked context' member old
      · simp only [EndpointRun.log, CoapEndpoint.cancel] at member
        split at member
        · obtain ⟨original, -, rfl⟩ := List.mem_map.mp member
          split at isIt
          · rename_i same
            rw [if_pos same]
          · rename_i other
            exact absurd isIt other
        · exact absurd isIt (by simpa using (List.mem_filter.mp member).2)
    · intro handle' reply wasLocked member isCancelled
      rcases either _ isCancelled with old | rfl
      · exact cancelled.acks handle' reply wasLocked member old
      · simpa [Frame.tells] using may _ member
    · intro handle' isCancelled
      rcases either _ isCancelled with old | rfl
      · exact cancelled.known handle' old
      · have known := sound.known context (List.mem_of_find?_eq_some found)
        have isHandle : context.handle = handle' := by simpa using List.find?_some found
        have counter : (state.endpoint.cancel handle').tokenCounter = state.endpoint.tokenCounter := by
          unfold CoapEndpoint.cancel
          split <;> rfl
        simp only [EndpointRun.log, counter]
        omega

theorem step {state' : EndpointRun} {step : EndpointStep} (sound : Sound state) (quiet : Quiet state)
    (may : state.MayCancel step) (steps : state.step step = .ok state') : Quiet state' := by
  cases step with
  | sendRequest resendTimeout maxResendCount =>
      rw [← Except.ok.inj steps]
      exact quiet.sendRequest resendTimeout maxResendCount
  | cancelRequest handle => exact step_cancelRequest sound quiet may steps
  | putData reply =>
      rw [← Except.ok.inj steps]
      unfold EndpointRun.putData
      split
      · exact quiet
      · rename_i isResponse
        exact quiet.onResponse (may isResponse)
  | timerFired handle =>
      rw [← Except.ok.inj steps]
      exact quiet.onTimerFired may
  | canPut =>
      rw [← Except.ok.inj steps]
      exact quiet.sendPendingRequests
  | setDataSink connected =>
      rw [← Except.ok.inj steps]
      have connects : Quiet { state with endpoint := { state.endpoint with connectionSink := connected } } :=
        ⟨quiet.marked, quiet.acks, quiet.known, quiet.silent⟩
      split
      · exact connects.sendPendingRequests
      · exact connects
  | resume result => exact quiet.resume may steps

end Quiet

theorem quiet_run {state : EndpointRun} (sound : Sound state) (quiet : Quiet state) {steps : List EndpointStep}
    (permits : state.Permits EndpointRun.MayCancel steps) :
    ∃ state', state.run steps = .ok state' ∧ Quiet state' := by
  induction steps generalizing state with
  | nil => exact ⟨state, rfl, quiet⟩
  | cons step steps ih =>
      obtain ⟨state', steps', sound'⟩ := sound.step step
      unfold EndpointRun.run at ih ⊢
      rw [List.foldlM_cons, steps']
      exact ih sound' (quiet.step sound permits.1 steps') (permits.2 state' steps')

/-- In every run in which no cancelled request is met where nobody looks at its mark: after
    `GG_CoapEndpoint_CancelRequest` has returned success the listener of the request is not called
    any more, and nothing is sent for it. -/
theorem silent_of_run (tokenPrefix : List UInt8) (tokenCounter : Nat) (connectionSink : Bool) (steps : List EndpointStep)
    (permits : (EndpointRun.create tokenPrefix tokenCounter connectionSink).Permits EndpointRun.MayCancel steps) :
    ∃ state, (EndpointRun.create tokenPrefix tokenCounter connectionSink).run steps = .ok state ∧
      SilentAfterCancel state.history := by
  have quiet : Quiet (EndpointRun.create tokenPrefix tokenCounter connectionSink) :=
    ⟨fun _ member => (nomatch member), fun _ _ _ member => (nomatch member), fun _ member => (nomatch member),
      fun earlier _ _ split => absurd split (by simp [EndpointRun.create])⟩
  obtain ⟨state, runs, quiet'⟩ := quiet_run (sound_create tokenPrefix tokenCounter connectionSink) quiet permits
  exact ⟨state, runs, quiet'.silent⟩

/-- A response with the token of a request. -/
def replyTo (counter : UInt32) : Reply := ⟨.ack, codeContent, bytesFromInt32Be counter⟩

/-- The listener of the first request cancels the second one in its `OnAck`; the first one is
    cancelled in vain when it is over. -/
def cancellingSteps : List EndpointStep :=
  [.sendRequest 1000 4, .resume .success, .sendRequest 1000 4, .resume .wouldBlock, .putData (replyTo 0),
    .cancelRequest 2, .canPut, .resume .success, .resume .success, .cancelRequest 1, .canPut]

theorem silent_cancellingSteps :
    ∃ state, (EndpointRun.create [] 0 true).run cancellingSteps = .ok state ∧ state.endpoint.requests = [] ∧
      EndpointEvent.cancel 2 ∈ state.history ∧ SilentAfterCancel state.history := by
  obtain ⟨state, runs, silent⟩ := silent_of_run [] 0 true cancellingSteps (by decide +kernel)
  have seen : ((EndpointRun.create [] 0 true).run cancellingSteps).map (fun state =>
      (state.endpoint.requests, decide (EndpointEvent.cancel 2 ∈ state.history))) = .ok ([], true) := by
    decide +kernel
  rw [runs] at seen
  have both := Prod.mk.inj (Except.ok.inj seen)
  exact ⟨state, runs, both.1, by simpa using both.2, silent⟩

/-- A request is cancelled in its own `OnAck`, and its listener is told of the response all the
    same. -/
theorem cancelledInAck_not_silent :
    ∃ state, (EndpointRun.create [] 0 true).run
        [.sendRequest 1000 4, .resume .success, .putData (replyTo 0), .cancelRequest 1, .resume .success] = .ok state ∧
      state.history = [.created 1 4, .put 1, .sent 1, .ack 1, .cancel 1, .response 1] ∧
      ¬ SilentAfterCancel state.history := by
  refine ⟨_, rfl, rfl, ?_⟩
  intro silent
  exact silent [.created 1 4, .put 1, .sent 1, .ack 1] 1 [.response 1] rfl (.response 1) List.mem_cons_self rfl

end GoldenGate.Coap
