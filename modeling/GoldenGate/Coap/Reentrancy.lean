import GoldenGate.Coap.Lifecycle

/-! # Calls from inside of call-outs

Listeners send and cancel requests from inside of their callbacks, and the sink delivers messages
from inside of `GG_DataSink_PutData`. Each listener is told once how its request ended, unless one of
the places is reached that trust the state of a context which a call-out has changed: the end of
`GG_CoapRequestContext_TryToSend`, the search for the token of a message, and the walk over the requests
while the sink's failure is told.
-/

namespace GoldenGate.Coap

open Memory

/-! ## What is done inside of a call-out -/

/-- Listeners send and cancel requests, and the sink delivers messages. -/
def Frame.allows : Frame → EndpointStep → Bool
  | _, .resume _ => true
  | .putting _ _, .putData _ => true
  | .failing _ _, .sendRequest _ _ | .acking _ _ _, .sendRequest _ _ => true
  | .responding _ _, .sendRequest _ _ | .timingOut _, .sendRequest _ _ => true
  | .failing _ _, .cancelRequest _ | .acking _ _ _, .cancelRequest _ => true
  | .responding _ _, .cancelRequest _ | .timingOut _, .cancelRequest _ => true
  | _, _ => false

/-- The waiting call has told the listener how the request ended, or will do so. -/
def Frame.speaks (handle : Nat) (frame : Frame) : Bool := frame.finishes handle || frame.tells handle

/-- The listener is told of a failure of the sink. -/
def Frame.isFailing : Frame → Bool
  | .failing _ _ => true
  | .putting _ _ | .acking _ _ _ | .responding _ _ | .timingOut _ => false

namespace EndpointRun

/-- The context of the request is not marked as cancelled. -/
def Unmarked (state : EndpointRun) (handle : Nat) : Prop :=
  ∀ context ∈ state.endpoint.find handle, context.state ≠ .cancelled

/-- The sink does not take a request that is marked meanwhile, and it does not fail for it or for
    one whose listener is told how it ended. -/
def MayReturn (state : EndpointRun) : PutResult → Frame → Prop
  | .success, .putting handle _ => state.Unmarked handle
  | .failure, .putting handle _ => state.Unmarked handle ∧ ∀ frame ∈ state.frames, frame.speaks handle = false
  | _, _ => True

instance (state : EndpointRun) (handle : Nat) : Decidable (state.Unmarked handle) :=
  inferInstanceAs (Decidable (∀ context ∈ state.endpoint.find handle, context.state ≠ .cancelled))

instance (state : EndpointRun) : ∀ result frame, Decidable (state.MayReturn result frame)
  | .success, .putting handle _ => inferInstanceAs (Decidable (state.Unmarked handle))
  | .failure, .putting handle _ =>
      inferInstanceAs (Decidable (state.Unmarked handle ∧ ∀ frame ∈ state.frames, frame.speaks handle = false))
  | .wouldBlock, .putting _ _ => inferInstanceAs (Decidable True)
  | .success, .failing _ _ | .success, .acking _ _ _ | .success, .responding _ _ | .success, .timingOut _ =>
      inferInstanceAs (Decidable True)
  | .failure, .failing _ _ | .failure, .acking _ _ _ | .failure, .responding _ _ | .failure, .timingOut _ =>
      inferInstanceAs (Decidable True)
  | .wouldBlock, .failing _ _ | .wouldBlock, .acking _ _ _ | .wouldBlock, .responding _ _ | .wouldBlock, .timingOut _ =>
      inferInstanceAs (Decidable True)

/-- The steps that do not meet a request where the code does not look at what a call-out has
    done to it: no request is sent while the listener of another one is told of a failure of the sink; no
    message has the token of a request that is marked, or whose listener is told how it ended. -/
def MayReenter (state : EndpointRun) : EndpointStep → Prop
  | .sendRequest _ _ => ∀ frame ∈ state.frames, frame.isFailing = false
  | .putData reply => messageCodeClass reply.code ≠ codeClassRequest →
      ∀ context ∈ state.endpoint.requests.find? (·.token = reply.token),
        context.state ≠ .cancelled ∧ ∀ frame ∈ state.frames, frame.speaks context.handle = false
  | .resume result => ∀ frame ∈ state.frames.head?, state.MayReturn result frame
  | .cancelRequest _ | .timerFired _ | .canPut | .setDataSink _ => True

instance (state : EndpointRun) : ∀ step, Decidable (state.MayReenter step)
  | .sendRequest _ _ => inferInstanceAs (Decidable (∀ frame ∈ state.frames, frame.isFailing = false))
  | .putData reply => inferInstanceAs (Decidable (messageCodeClass reply.code ≠ codeClassRequest →
      ∀ context ∈ state.endpoint.requests.find? (·.token = reply.token),
        context.state ≠ .cancelled ∧ ∀ frame ∈ state.frames, frame.speaks context.handle = false))
  | .resume result => inferInstanceAs (Decidable (∀ frame ∈ state.frames.head?, state.MayReturn result frame))
  | .cancelRequest _ | .timerFired _ | .canPut | .setDataSink _ => inferInstanceAs (Decidable True)

/-- A step of listeners and a sink that call the endpoint again. -/
def Reenters (state : EndpointRun) (step : EndpointStep) : Prop := ∀ frame ∈ state.frames.head?, frame.allows step = true

instance (state : EndpointRun) (step : EndpointStep) : Decidable (state.Reenters step) :=
  inferInstanceAs (Decidable (∀ frame ∈ state.frames.head?, frame.allows step = true))

/-- The sink keeps failing. -/
def KeepsFailing (state : EndpointRun) (step : EndpointStep) : Prop :=
  ∀ frame ∈ state.frames.head?, ∀ handle walk, frame = .putting handle walk → step = .resume .failure

end EndpointRun

/-- The listener is told how the request ended. -/
def EndpointEvent.concludes (handle : Nat) : EndpointEvent → Bool
  | .response handle' | .error handle' _ => handle' = handle
  | .created _ _ | .put _ | .sent _ | .ack _ | .cancel _ => false

/-- A listener is told once how its request ended, and nothing after that. -/
def ConcludesOnce (history : List EndpointEvent) : Prop :=
  ∀ (earlier : List EndpointEvent) (handle : Nat) (event : EndpointEvent) (later : List EndpointEvent),
    history = earlier ++ event :: later → event.concludes handle = true →
    ∀ event' ∈ later, event'.tellsListener handle = false

/-! ## The invariant -/

def Concluded (history : List EndpointEvent) (handle : Nat) : Prop := ∃ event ∈ history, event.concludes handle = true

/-- The requests of some handles are marked or gone, and each listener was told at most once how its
    request ended. -/
structure Once (marks : Nat → Prop) (state : EndpointRun) : Prop where
  once : ConcludesOnce state.history
  known : ∀ handle, Concluded state.history handle → handle ≤ state.endpoint.tokenCounter
  closing : ∀ context ∈ state.endpoint.requests, context.state ≠ .cancelled → Concluded state.history context.handle →
    ∃ frame ∈ state.frames, frame.finishes context.handle = true
  silent : ∀ frame ∈ state.frames, ∀ handle, frame.tells handle = true → ¬ Concluded state.history handle
  alone : state.frames.Pairwise (fun frame frame' => ∀ handle, frame.speaks handle = true → frame'.speaks handle = false)
  clean : state.endpoint.locked = false → ∀ context ∈ state.endpoint.requests, context.state ≠ .cancelled
  unique : (state.endpoint.requests.map (·.handle)).Nodup
  marked : ∀ handle, marks handle → handle ≤ state.endpoint.tokenCounter ∧
    ∀ context ∈ state.endpoint.requests, context.handle = handle → context.state = .cancelled

theorem ConcludesOnce.concat {history : List EndpointEvent} (once : ConcludesOnce history) {event : EndpointEvent}
    (first : ∀ handle, event.tellsListener handle = true → ¬ Concluded history handle) :
    ConcludesOnce (history ++ [event]) := by
  intro earlier handle mark later split concludes event' member
  rcases split_concat split with rfl | ⟨before, rfl, rfl⟩
  · exact nomatch member
  · rcases List.mem_append.mp member with old | new
    · exact once earlier handle mark before rfl concludes event' old
    · rw [List.mem_singleton.mp new]
      apply Bool.eq_false_iff.mpr
      intro tells
      exact first handle tells ⟨mark, by simp, concludes⟩

theorem Concluded.of_concat {history : List EndpointEvent} {event : EndpointEvent} {handle : Nat}
    (concluded : Concluded (history ++ [event]) handle) : Concluded history handle ∨ event.concludes handle = true := by
  obtain ⟨event', member, concludes⟩ := concluded
  rcases List.mem_append.mp member with old | new
  · exact .inl ⟨event', old, concludes⟩
  · exact .inr (List.mem_singleton.mp new ▸ concludes)

theorem EndpointEvent.tells_of_concludes {handle : Nat} {event : EndpointEvent} (concludes : event.concludes handle = true) :
    event.tellsListener handle = true := by
  cases event with
  | response | error => exact concludes
  | created | put | sent | ack | cancel => exact nomatch concludes

theorem EndpointEvent.handle_of_tells {handle : Nat} {event : EndpointEvent} (tells : event.tellsListener handle = true) :
    event.handle = handle := by
  cases event with
  | ack | response | error => exact of_decide_eq_true tells
  | created | put | sent | cancel => exact nomatch tells

theorem Frame.handle_of_speaks {handle : Nat} {frame : Frame} (speaks : frame.speaks handle = true) :
    frame.handle = handle := by
  cases frame <;> simp_all [Frame.speaks, finishes, tells, Frame.handle]

namespace Once

variable {marks : Nat → Prop} {state : EndpointRun}

/-- What is told to no listener. -/
theorem log (once : Once marks state) {event : EndpointEvent} (neutral : ∀ handle, event.tellsListener handle = false) :
    Once marks (state.log event) := by
  have same : ∀ handle, Concluded (state.history ++ [event]) handle → Concluded state.history handle := by
    intro handle concluded
    rcases concluded.of_concat with old | concludes
    · exact old
    · have tells := EndpointEvent.tells_of_concludes concludes
      rw [neutral] at tells
      exact nomatch tells
  refine ⟨?_, ?_, ?_, ?_, once.alone, once.clean, once.unique, once.marked⟩
  · apply once.once.concat
    intro handle tells
    rw [neutral] at tells
    exact nomatch tells
  · exact fun handle concluded => once.known handle (same handle concluded)
  · exact fun context member notCancelled concluded => once.closing context member notCancelled (same _ concluded)
  · exact fun frame member handle tells concluded => once.silent frame member handle tells (same handle concluded)

/-- A context is changed, and it stays marked if it is. -/
theorem modify (once : Once marks state) {handle : Nat} {f : CoapRequestContext → CoapRequestContext}
    (keeps : ∀ context, (f context).handle = context.handle)
    (staysMarked : ∀ context ∈ state.endpoint.requests, context.handle = handle → context.state = .cancelled →
      (f context).state = .cancelled)
    (clean : state.endpoint.locked = false → ∀ context ∈ state.endpoint.requests, context.handle = handle →
      (f context).state ≠ .cancelled) :
    Once marks { state with endpoint := state.endpoint.modify handle f } := by
  refine ⟨once.once, once.known, ?_, once.silent, once.alone, ?_, CoapEndpoint.unique_modify keeps once.unique, ?_⟩
  · intro context member notCancelled concluded
    obtain ⟨original, isOriginal, rfl⟩ := List.mem_map.mp member
    split at notCancelled
    · rename_i isIt
      rw [if_pos isIt, keeps] at concluded ⊢
      exact once.closing original isOriginal (fun isMarked => notCancelled (staysMarked original isOriginal isIt isMarked))
        concluded
    · rename_i isOther
      rw [if_neg isOther] at concluded ⊢
      exact once.closing original isOriginal notCancelled concluded
  · intro notLocked context member
    obtain ⟨original, isOriginal, rfl⟩ := List.mem_map.mp member
    split
    · rename_i isIt
      exact clean notLocked original isOriginal isIt
    · exact once.clean notLocked original isOriginal
  · intro handle' isMark
    refine ⟨(once.marked handle' isMark).1, ?_⟩
    intro context member isHandle
    obtain ⟨original, isOriginal, rfl⟩ := List.mem_map.mp member
    split at isHandle
    · rename_i isIt
      rw [if_pos isIt]
      rw [keeps] at isHandle
      exact staysMarked original isOriginal isIt ((once.marked handle' isMark).2 original isOriginal isHandle)
    · rename_i isOther
      rw [if_neg isOther]
      exact (once.marked handle' isMark).2 original isOriginal isHandle

/-- Some contexts are destroyed. -/
theorem filter (once : Once marks state) (p : CoapRequestContext → Bool) {locked : Bool}
    (clean : locked = false → ∀ context ∈ state.endpoint.requests, p context = true → context.state ≠ .cancelled) :
    Once marks { state with endpoint :=
      { state.endpoint with locked := locked, requests := state.endpoint.requests.filter p } } := by
  refine ⟨once.once, once.known, ?_, once.silent, once.alone, ?_, CoapEndpoint.unique_filter _ once.unique, ?_⟩
  · exact fun context member => once.closing context (List.mem_filter.mp member).1
  · intro notLocked context member
    exact clean notLocked context (List.mem_filter.mp member).1 (List.mem_filter.mp member).2
  · intro handle isMark
    exact ⟨(once.marked handle isMark).1,
      fun context member => (once.marked handle isMark).2 context (List.mem_filter.mp member).1⟩

theorem release (once : Once marks state) (wasLocked : Bool) : Once marks (state.release wasLocked) := by
  unfold EndpointRun.release CoapEndpoint.release
  split
  · exact once
  · apply once.filter
    intro _ context _ notCancelled
    simpa using notCancelled

theorem cancel (once : Once marks state) (handle : Nat) :
    Once marks { state with endpoint := state.endpoint.cancel handle } := by
  unfold CoapEndpoint.cancel
  split
  · rename_i locked
    refine @Once.modify _ _ once handle ({ · with state := .cancelled }) (fun _ => rfl) (fun _ _ _ _ => rfl) ?_
    intro notLocked
    rw [locked] at notLocked
    exact nomatch notLocked
  · exact once.filter _ (fun notLocked context member _ => once.clean notLocked context member)

/-- The requests are locked. -/
theorem lock (once : Once marks state) : Once marks { state with endpoint := { state.endpoint with locked := true } } :=
  ⟨once.once, once.known, once.closing, once.silent, once.alone, fun notLocked => (nomatch notLocked), once.unique,
    once.marked⟩

/-- A call-out in which nothing is told. -/
theorem push (once : Once marks state) {frame : Frame} (quiet : ∀ handle, frame.speaks handle = false) :
    Once marks (state.push frame) := by
  refine ⟨once.once, once.known, ?_, ?_, ?_, once.clean, once.unique, once.marked⟩
  · intro context member notCancelled concluded
    obtain ⟨frame', isFrame, finishes⟩ := once.closing context member notCancelled concluded
    exact ⟨frame', List.mem_cons_of_mem _ isFrame, finishes⟩
  · intro frame' member handle tells
    rcases List.mem_cons.mp member with rfl | below
    · have speaks := quiet handle
      simp [Frame.speaks, tells] at speaks
    · exact once.silent frame' below handle tells
  · apply List.pairwise_cons.mpr
    refine ⟨?_, once.alone⟩
    intro frame' _ handle speaks
    rw [quiet] at speaks
    exact nomatch speaks

/-- The listener is called, and told how the request ended or not. -/
theorem tell (once : Once marks state) {handle : Nat} (notConcluded : ¬ Concluded state.history handle)
    (quiet : ∀ frame ∈ state.frames, frame.speaks handle = false) (known : handle ≤ state.endpoint.tokenCounter)
    {event : EndpointEvent} (tells : event.tellsListener handle = true) {frame : Frame} (isHandle : frame.handle = handle)
    (finishes : event.concludes handle = true → frame.finishes handle = true)
    (goesOn : frame.tells handle = true → event.concludes handle = false) :
    Once marks ((state.log event).push frame) := by
  have only : ∀ handle', event.concludes handle' = true → handle' = handle := by
    intro handle' concludes
    rw [← EndpointEvent.handle_of_tells (EndpointEvent.tells_of_concludes concludes), EndpointEvent.handle_of_tells tells]
  refine ⟨?_, ?_, ?_, ?_, ?_, once.clean, once.unique, once.marked⟩
  · apply once.once.concat
    intro handle' tells'
    rw [← EndpointEvent.handle_of_tells tells', EndpointEvent.handle_of_tells tells]
    exact notConcluded
  · intro handle' concluded
    rcases concluded.of_concat with old | concludes
    · exact once.known handle' old
    · rw [only handle' concludes]
      exact known
  · intro context member notCancelled concluded
    rcases concluded.of_concat with old | concludes
    · obtain ⟨frame', isFrame, isFinishing⟩ := once.closing context member notCancelled old
      exact ⟨frame', List.mem_cons_of_mem _ isFrame, isFinishing⟩
    · have same := only _ concludes
      rw [same] at concludes ⊢
      exact ⟨frame, List.mem_cons_self, finishes concludes⟩
  · intro frame' member handle' tells' concluded
    rcases List.mem_cons.mp member with rfl | below
    · have same : frame'.handle = handle' := Frame.handle_of_speaks (by simp [Frame.speaks, tells'])
      rw [← same, isHandle] at tells' concluded
      rcases concluded.of_concat with old | concludes
      · exact notConcluded old
      · rw [goesOn tells'] at concludes
        exact nomatch concludes
    · rcases concluded.of_concat with old | concludes
      · exact once.silent frame' below handle' tells' old
      · have speaks := quiet frame' below
        rw [← only handle' concludes] at speaks
        simp [Frame.speaks, tells'] at speaks
  · apply List.pairwise_cons.mpr
    refine ⟨?_, once.alone⟩
    intro frame' below handle' speaks
    rw [← Frame.handle_of_speaks speaks, isHandle]
    exact quiet frame' below

/-- A call-out returns, and the request whose listener was told is marked or gone. -/
theorem popMarked (once : Once marks state) {frame : Frame} {frames : List Frame} (isTop : state.frames = frame :: frames)
    (marked : ∀ context ∈ state.endpoint.requests, frame.finishes context.handle = true → context.state = .cancelled) :
    Once marks { state with frames := frames } := by
  have alone := once.alone
  rw [isTop] at alone
  refine ⟨once.once, once.known, ?_, ?_, (List.pairwise_cons.mp alone).2, once.clean, once.unique, once.marked⟩
  · intro context member notCancelled concluded
    obtain ⟨frame', isFrame, isFinishing⟩ := once.closing context member notCancelled concluded
    rw [isTop] at isFrame
    rcases List.mem_cons.mp isFrame with rfl | below
    · exact absurd (marked context member isFinishing) notCancelled
    · exact ⟨frame', below, isFinishing⟩
  · intro frame' member
    exact once.silent frame' (by rw [isTop]; exact List.mem_cons_of_mem _ member)

/-- A call-out returns that has not told how the request ended. -/
theorem pop (once : Once marks state) {frame : Frame} {frames : List Frame} (isTop : state.frames = frame :: frames)
    (notFinishing : ∀ handle, frame.finishes handle = false) : Once marks { state with frames := frames } := by
  apply once.popMarked isTop
  intro context _ finishing
  rw [notFinishing] at finishing
  cases finishing

/-- The call goes on. -/
theorem popFinishing (once : Once marks state) {frame : Frame} {frames : List Frame} (isTop : state.frames = frame :: frames)
    (marked : ∀ context ∈ state.endpoint.requests, context.handle = frame.handle → context.state = .cancelled) :
    Once marks { state with frames := frames } := by
  apply once.popMarked isTop
  intro context member finishing
  exact marked context member (Frame.handle_of_speaks (by simp [Frame.speaks, finishing])).symm

/-! ## Steps -/

/-- A request that is not marked, and of which no waiting call speaks, has not ended. -/
theorem notConcluded (once : Once marks state) {context : CoapRequestContext} (member : context ∈ state.endpoint.requests)
    (notCancelled : context.state ≠ .cancelled) (quiet : ∀ frame ∈ state.frames, frame.speaks context.handle = false) :
    ¬ Concluded state.history context.handle := by
  intro concluded
  obtain ⟨frame, isFrame, finishes⟩ := once.closing context member notCancelled concluded
  have speaks := quiet frame isFrame
  simp [Frame.speaks, finishes] at speaks

theorem walked {state' : EndpointRun} {wasLocked : Bool} (once : Once marks state)
    (walks : state' = state.release wasLocked ∨ ∃ context ∈ state.endpoint.requests, context.state = .readyToSend ∧
      ∃ next, state' = (state.log (.put context.handle)).push (.putting context.handle ⟨next, wasLocked⟩)) :
    Once marks state' := by
  rcases walks with rfl | ⟨context, -, -, next, rfl⟩
  · exact once.release wasLocked
  · exact (once.log (fun _ => rfl)).push (fun _ => rfl)

theorem sendPendingRequests (once : Once marks state) : Once marks state.sendPendingRequests :=
  once.lock.walked (EndpointRun.walkFrom_cases _ _ _)

theorem sendRequest (sound : Sound state) (once : Once marks state) (resendTimeout : UInt32) (maxResendCount : Nat) :
    Once marks (state.sendRequest resendTimeout maxResendCount) := by
  have logged : Once marks (state.log (.created (state.endpoint.tokenCounter + 1) maxResendCount)) :=
    once.log (fun _ => rfl)
  unfold EndpointRun.sendRequest
  apply sendPendingRequests
  refine ⟨logged.once, ?_, ?_, logged.silent, logged.alone, ?_, ?_, ?_⟩
  · exact fun handle concluded => Nat.le_succ_of_le (logged.known handle concluded)
  · intro context member notCancelled concluded
    rcases List.mem_append.mp member with old | new
    · exact logged.closing context old notCancelled concluded
    · have known := logged.known context.handle concluded
      rw [List.mem_singleton.mp new] at known
      exact absurd known (Nat.not_succ_le_self _)
  · intro notLocked context member
    rcases List.mem_append.mp member with old | new
    · exact once.clean notLocked context old
    · rw [List.mem_singleton.mp new]
      simp
  · simp only [EndpointRun.log, List.map_append, List.map_cons, List.map_nil]
    apply List.nodup_append.mpr
    refine ⟨once.unique, by simp, ?_⟩
    intro handle old handle' new
    obtain ⟨context, member, rfl⟩ := List.mem_map.mp old
    have known := sound.known context member
    rw [List.mem_singleton.mp new]
    omega
  · intro handle isMark
    obtain ⟨known, isMarked⟩ := once.marked handle isMark
    refine ⟨Nat.le_succ_of_le known, ?_⟩
    intro context member isHandle
    rcases List.mem_append.mp member with old | new
    · exact isMarked context old isHandle
    · rw [List.mem_singleton.mp new] at isHandle
      simp only at isHandle
      omega

/-- The timer fires, with no call waiting. -/
theorem onTimerFired (sound : Sound state) (once : Once marks state) (isTop : state.frames = []) (handle : Nat) :
    Once marks (state.onTimerFired handle) := by
  have notLocked : state.endpoint.locked = false := by
    rw [sound.locked, isTop]
    rfl
  unfold EndpointRun.onTimerFired
  split
  · exact once
  · rename_i context found
    obtain ⟨member, rfl⟩ := CoapEndpoint.find_eq found
    split
    · exact once
    · split
      · apply sendPendingRequests
        refine once.modify (fun _ => rfl) ?_ (fun _ _ _ _ => by simp [CoapRequestContext.resending])
        intro context' isMember _ isMarked
        exact absurd isMarked (once.clean notLocked context' isMember)
      · have notConcluded := once.notConcluded member (once.clean notLocked context member) (by simp [isTop])
        have due := @Once.modify _ _ once context.handle .timerDue (fun _ => rfl) (fun _ _ _ isMarked => isMarked)
          (fun _ context' isMember _ => once.clean notLocked context' isMember)
        apply due.tell notConcluded (by simp [isTop]) (sound.known context member) _ rfl
        · intro _
          simp [Frame.finishes]
        · exact fun tells => (by cases tells)
        · simp [EndpointEvent.tellsListener]

/-- The listener of a request that has not ended is told of a message. -/
theorem notify (once : Once marks state) {handle : Nat} (notConcluded : ¬ Concluded state.history handle)
    (quiet : ∀ frame ∈ state.frames, frame.speaks handle = false) (known : handle ≤ state.endpoint.tokenCounter)
    (reply : Reply) (wasLocked : Bool) : Once marks (state.notify handle reply wasLocked) := by
  have tells : (reply.event handle).tellsListener handle = true := by
    unfold Reply.event
    split
    · simp [EndpointEvent.tellsListener]
    · split <;> simp [EndpointEvent.tellsListener]
  unfold EndpointRun.notify
  split
  · exact once.release wasLocked
  · apply once.tell notConcluded quiet known tells rfl
    · intro _
      simp [Frame.finishes]
    · exact fun tells' => (by cases tells')

theorem onResponse (sound : Sound state) (once : Once marks state) {reply : Reply}
    (may : ∀ context ∈ state.endpoint.requests.find? (·.token = reply.token),
      context.state ≠ .cancelled ∧ ∀ frame ∈ state.frames, frame.speaks context.handle = false) :
    Once marks (state.onResponse reply) := by
  unfold EndpointRun.onResponse
  simp only
  split
  · exact once.lock.release _
  · rename_i context found
    obtain ⟨notCancelled, quiet⟩ := may context found
    have member := List.mem_of_find?_eq_some found
    have notConcluded := once.notConcluded member notCancelled quiet
    have known := sound.known context member
    have answered := @Once.modify _ _ once.lock context.handle (·.answered reply) (fun _ => rfl)
      (fun context' _ _ isMarked => by simp [CoapRequestContext.answered, CoapRequestContext.acknowledges, isMarked])
      (fun notLocked => (nomatch notLocked))
    split
    · apply answered.tell notConcluded quiet known _ rfl
      · exact fun concludes => (nomatch concludes)
      · exact fun _ => rfl
      · simp [EndpointEvent.tellsListener]
    · exact answered.notify notConcluded quiet known reply _

/-- After the listener was told how the request ended it is cancelled. -/
theorem finish (once : Once marks state) {frame : Frame} {frames : List Frame} (isTop : state.frames = frame :: frames) :
    Once marks { state with endpoint := state.endpoint.cancel frame.handle, frames := frames } := by
  refine @popFinishing _ _ (once.cancel frame.handle) frame frames isTop ?_
  intro context member isHandle
  simp only [CoapEndpoint.cancel] at member
  split at member
  · obtain ⟨original, -, rfl⟩ := List.mem_map.mp member
    split
    · rfl
    · rename_i isOther
      rw [if_neg isOther] at isHandle
      exact absurd isHandle isOther
  · exact absurd isHandle (by simpa using (List.mem_filter.mp member).2)

theorem finishRequest (once : Once marks state) {frame : Frame} {frames : List Frame}
    (isTop : state.frames = frame :: frames) :
    Once marks ({ state with frames := frames }.cancelRequest frame.handle).1 := by
  unfold EndpointRun.cancelRequest
  split
  · rename_i notFound
    apply once.popFinishing isTop
    intro context member isHandle
    exact absurd isHandle (by simpa using List.find?_eq_none.mp notFound context member)
  · exact once.finish isTop

theorem resume {state' : EndpointRun} {result : PutResult} (sound : Sound state) (once : Once marks state)
    (may : state.MayReenter (.resume result)) (resumes : state.resume result = .ok state') : Once marks state' := by
  unfold EndpointRun.resume at resumes
  split at resumes
  · exact Except.ok.inj resumes ▸ once
  · rename_i handle walk frames isTop
    have popped := once.pop isTop (fun _ => rfl)
    have mayReturn : state.MayReturn result (.putting handle walk) := may _ (by rw [isTop]; rfl)
    obtain ⟨context, member, isHandle⟩ := sound.pointed (.putting handle walk) (by rw [isTop]; exact List.mem_cons_self)
      handle rfl
    have found := CoapEndpoint.find_of_mem once.unique member
    rw [isHandle] at found
    cases result with
    | wouldBlock => exact Except.ok.inj resumes ▸ popped.release walk.wasLocked
    | failure =>
        obtain ⟨-, -, fails⟩ := bind_ok resumes
        obtain ⟨unmarked, quiet⟩ := mayReturn
        have notConcluded : ¬ Concluded state.history handle := by
          rw [← isHandle] at quiet ⊢
          exact once.notConcluded member (unmarked context found) quiet
        have below : ∀ frame ∈ frames, frame.speaks handle = false :=
          fun frame below => quiet frame (by rw [isTop]; exact List.mem_cons_of_mem _ below)
        rw [← Except.ok.inj fails]
        apply popped.tell notConcluded below (isHandle ▸ sound.known context member) _ rfl
        · intro _
          simp [Frame.finishes]
        · exact fun tells => (by cases tells)
        · simp [EndpointEvent.tellsListener]
    | success =>
        obtain ⟨-, -, continues⟩ := bind_ok resumes
        rw [← Except.ok.inj continues]
        have locked : state.endpoint.locked = true := (sound.pop isTop rfl).locked
        have sent := @Once.modify _ _ popped handle ({ · with state := .waitingForAck }) (fun _ => rfl) (by
          intro context' isMember isIt isMarked
          have found' := CoapEndpoint.find_of_mem once.unique isMember
          rw [isIt] at found'
          exact absurd isMarked (mayReturn context' found')) (by
          intro notLocked
          rw [locked] at notLocked
          cases notLocked)
        exact (sent.log (fun _ => rfl)).walked (EndpointRun.continueWalk_cases _ _)
  · rename_i handle walk frames isTop
    exact Except.ok.inj resumes ▸ (once.finishRequest isTop).walked (EndpointRun.continueWalk_cases _ _)
  · rename_i handle reply wasLocked frames isTop
    obtain ⟨-, -, notifies⟩ := bind_ok resumes
    rw [← Except.ok.inj notifies]
    have popped := once.pop isTop (fun _ => rfl)
    obtain ⟨context, member, isHandle⟩ := sound.pointed (.acking handle reply wasLocked)
      (by rw [isTop]; exact List.mem_cons_self) handle rfl
    cases empty : reply.isEmptyAck with
    | true =>
        rw [EndpointRun.notify, if_pos empty]
        exact popped.release wasLocked
    | false =>
        have tells : Frame.tells handle (.acking handle reply wasLocked) = true := by simp [Frame.tells, empty]
        apply popped.notify
        · exact once.silent _ (by rw [isTop]; exact List.mem_cons_self) handle tells
        · intro frame below
          have alone := once.alone
          rw [isTop] at alone
          exact (List.pairwise_cons.mp alone).1 frame below handle (by simp [Frame.speaks, tells])
        · exact isHandle ▸ sound.known context member
  · rename_i handle wasLocked frames isTop
    obtain ⟨-, -, cancels⟩ := bind_ok resumes
    exact Except.ok.inj cancels ▸ (once.finish isTop).release wasLocked
  · rename_i handle frames isTop
    exact Except.ok.inj resumes ▸ once.finishRequest isTop

theorem step {state' : EndpointRun} {step : EndpointStep} (sound : Sound state) (once : Once marks state)
    (reenters : state.Reenters step) (may : state.MayReenter step) (steps : state.step step = .ok state') :
    Once marks state' := by
  cases step with
  | sendRequest resendTimeout maxResendCount =>
      exact Except.ok.inj steps ▸ once.sendRequest sound resendTimeout maxResendCount
  | cancelRequest handle =>
      rcases state.step_cancelRequest handle with ⟨-, same⟩ | ⟨context, -, cancels⟩
      · rw [same] at steps
        exact Except.ok.inj steps ▸ once
      · rw [cancels] at steps
        exact Except.ok.inj steps ▸ (once.cancel handle).log (fun _ => rfl)
  | putData reply =>
      rw [← Except.ok.inj steps]
      unfold EndpointRun.putData
      split
      · exact once
      · rename_i isResponse
        exact once.onResponse sound (may isResponse)
  | timerFired handle =>
      rw [← Except.ok.inj steps]
      cases isTop : state.frames with
      | nil => exact once.onTimerFired sound isTop handle
      | cons frame frames =>
          have allowed := reenters frame (by rw [isTop]; rfl)
          cases frame <;> exact nomatch allowed
  | canPut => exact Except.ok.inj steps ▸ once.sendPendingRequests
  | setDataSink connected =>
      rw [← Except.ok.inj steps]
      have connects : Once marks { state with endpoint := { state.endpoint with connectionSink := connected } } :=
        ⟨once.once, once.known, once.closing, once.silent, once.alone, once.clean, once.unique, once.marked⟩
      split
      · exact connects.sendPendingRequests
      · exact connects
  | resume result => exact once.resume sound may steps

end Once

end GoldenGate.Coap
