import GoldenGate.Coap.Reentrancy

/-! # Runs with calls from inside of call-outs

How deep the calls are nested, that they return, and what holds after every run.
-/

namespace GoldenGate.Coap

open Memory

/-! ## Depth -/

/-- The call gives requests to the sink, or tells that it has failed. -/
def Frame.sends : Frame → Bool
  | .putting _ _ | .failing _ _ => true
  | .acking _ _ _ | .responding _ _ | .timingOut _ => false

/-- At most one callback waits, and inside of it at most one walk over the requests. -/
inductive Shallow : List Frame → Prop where
  | idle : Shallow []
  | single (frame : Frame) : Shallow [frame]
  | sending {top bottom : Frame} (sends : top.sends = true) (tells : bottom.sends = false) : Shallow [top, bottom]

theorem Shallow.length_le {frames : List Frame} (shallow : Shallow frames) : frames.length ≤ 2 := by
  cases shallow with
  | idle => exact Nat.zero_le _
  | single => exact Nat.le_succ _
  | sending => exact Nat.le_refl _

/-- What a walk adds to the frames. -/
theorem shallow_walked {state state' : EndpointRun} {wasLocked : Bool}
    (below : state.frames = [] ∨ ∃ bottom, state.frames = [bottom] ∧ bottom.sends = false)
    (walks : state' = state.release wasLocked ∨ ∃ context ∈ state.endpoint.requests, context.state = .readyToSend ∧
      ∃ next, state' = (state.log (.put context.handle)).push (.putting context.handle ⟨next, wasLocked⟩)) :
    Shallow state'.frames := by
  rcases walks with rfl | ⟨context, -, -, next, rfl⟩
  · rcases below with idle | ⟨bottom, isBottom, -⟩
    · exact idle ▸ .idle
    · exact isBottom ▸ .single bottom
  · simp only [EndpointRun.push, EndpointRun.log]
    rcases below with idle | ⟨bottom, isBottom, tells⟩
    · exact idle ▸ .single _
    · exact isBottom ▸ .sending rfl tells

theorem shallow_sendPendingRequests {state : EndpointRun}
    (below : state.frames = [] ∨ ∃ bottom, state.frames = [bottom] ∧ bottom.sends = false) :
    Shallow state.sendPendingRequests.frames :=
  @shallow_walked { state with endpoint := { state.endpoint with locked := true } } _ _ below
    (EndpointRun.walkFrom_cases _ _ _)

theorem shallow_notify {state : EndpointRun} (idle : state.frames = []) (handle : Nat) (reply : Reply) (wasLocked : Bool) :
    Shallow (state.notify handle reply wasLocked).frames := by
  unfold EndpointRun.notify
  split
  · exact idle ▸ .idle
  · simp only [EndpointRun.push, EndpointRun.log, idle]
    exact .single _

theorem cancelRequest_frames (state : EndpointRun) (handle : Nat) : (state.cancelRequest handle).1.frames = state.frames := by
  rcases cancelRequest_fst state handle with same | cancels
  · rw [same]
  · rw [cancels]

/-- A call-out returns. -/
theorem shallow_resume {state state' : EndpointRun} {result : PutResult} (shallow : Shallow state.frames)
    (fails : state.KeepsFailing (.resume result)) (resumes : state.resume result = .ok state') : Shallow state'.frames := by
  have rest : ∀ {frame frames}, state.frames = frame :: frames →
      frames = [] ∨ frame.sends = true ∧ ∃ bottom, frames = [bottom] ∧ bottom.sends = false := by
    intro frame frames isTop
    rw [isTop] at shallow
    cases shallow with
    | single => exact .inl rfl
    | sending sends tells => exact .inr ⟨sends, _, rfl, tells⟩
  unfold EndpointRun.resume at resumes
  split at resumes
  · exact Except.ok.inj resumes ▸ shallow
  · rename_i handle walk frames isTop
    have isFailure := fails _ (by rw [isTop]; rfl) handle walk rfl
    obtain rfl := EndpointStep.resume.inj isFailure
    obtain ⟨-, -, told⟩ := bind_ok resumes
    rw [← Except.ok.inj told]
    simp only [EndpointRun.push, EndpointRun.log]
    rcases rest isTop with rfl | ⟨-, bottom, rfl, tells⟩
    · exact .single _
    · exact .sending rfl tells
  · rename_i handle walk frames isTop
    rw [← Except.ok.inj resumes]
    refine shallow_walked ?_ (EndpointRun.continueWalk_cases _ _)
    rw [cancelRequest_frames]
    rcases rest isTop with rfl | ⟨-, bottom, rfl, tells⟩
    · exact .inl rfl
    · exact .inr ⟨bottom, rfl, tells⟩
  · rename_i handle reply wasLocked frames isTop
    obtain ⟨-, -, notifies⟩ := bind_ok resumes
    rw [← Except.ok.inj notifies]
    rcases rest isTop with rfl | ⟨sends, -⟩
    · apply shallow_notify
      rfl
    · cases sends
  · rename_i handle wasLocked frames isTop
    obtain ⟨-, -, cancels⟩ := bind_ok resumes
    rw [← Except.ok.inj cancels]
    rcases rest isTop with rfl | ⟨sends, -⟩
    · exact .idle
    · cases sends
  · rename_i handle frames isTop
    rw [← Except.ok.inj resumes, cancelRequest_frames]
    rcases rest isTop with rfl | ⟨sends, -⟩
    · exact .idle
    · cases sends

/-- A step of an endpoint with no call waiting makes at most one call-out. -/
theorem shallow_idle {state state' : EndpointRun} {step : EndpointStep} (idle : state.frames = [])
    (steps : state.step step = .ok state') : Shallow state'.frames := by
  cases step with
  | sendRequest resendTimeout maxResendCount =>
      rw [← Except.ok.inj steps]
      exact shallow_sendPendingRequests (.inl idle)
  | cancelRequest handle =>
      rcases state.step_cancelRequest handle with ⟨-, same⟩ | ⟨context, -, cancels⟩
      · rw [same] at steps
        rw [← Except.ok.inj steps, idle]
        exact .idle
      · rw [cancels] at steps
        rw [← Except.ok.inj steps]
        simp only [EndpointRun.log, idle]
        exact .idle
  | putData reply =>
      rw [← Except.ok.inj steps]
      unfold EndpointRun.putData EndpointRun.onResponse
      simp only
      split
      · exact idle ▸ .idle
      · split
        · exact idle ▸ .idle
        · split
          · simp only [EndpointRun.push, EndpointRun.log, idle]
            exact .single _
          · apply shallow_notify
            exact idle
  | timerFired handle =>
      rw [← Except.ok.inj steps]
      unfold EndpointRun.onTimerFired
      split
      · exact idle ▸ .idle
      · split
        · exact idle ▸ .idle
        · split
          · exact shallow_sendPendingRequests (.inl idle)
          · simp only [EndpointRun.push, EndpointRun.log, idle]
            exact .single _
  | canPut => exact Except.ok.inj steps ▸ shallow_sendPendingRequests (.inl idle)
  | setDataSink connected =>
      rw [← Except.ok.inj steps]
      split
      · exact shallow_sendPendingRequests (.inl idle)
      · exact idle ▸ .idle
  | resume result =>
      simp only [EndpointRun.step, EndpointRun.resume, idle] at steps
      rw [← Except.ok.inj steps, idle]
      exact .idle

/-- With a sink that keeps failing there is no recursion. -/
theorem shallow_step {state state' : EndpointRun} {step : EndpointStep} (shallow : Shallow state.frames)
    (reenters : state.Reenters step) (may : state.MayReenter step) (fails : state.KeepsFailing step)
    (steps : state.step step = .ok state') : Shallow state'.frames := by
  cases isTop : state.frames with
  | nil => exact shallow_idle isTop steps
  | cons top frames =>
      have allowed := reenters top (by rw [isTop]; rfl)
      cases step with
      | resume result => exact shallow_resume shallow fails steps
      | cancelRequest handle =>
          rcases state.step_cancelRequest handle with ⟨-, same⟩ | ⟨context, -, cancels⟩
          · rw [same] at steps
            exact Except.ok.inj steps ▸ shallow
          · rw [cancels] at steps
            exact Except.ok.inj steps ▸ shallow
      | sendRequest resendTimeout maxResendCount =>
          rw [← Except.ok.inj steps]
          have notFailing := may top (by rw [isTop]; exact List.mem_cons_self)
          have tells : top.sends = false := by
            cases top with
            | putting => exact nomatch allowed
            | failing => exact nomatch notFailing
            | acking | responding | timingOut => rfl
          apply shallow_sendPendingRequests
          rw [isTop] at shallow
          cases shallow with
          | single => exact .inr ⟨top, isTop, tells⟩
          | sending sends =>
              rw [tells] at sends
              exact nomatch sends
      | putData reply =>
          cases top with
          | putting handle walk => exact nomatch fails _ (by rw [isTop]; rfl) handle walk rfl
          | failing | acking | responding | timingOut => exact nomatch allowed
      | timerFired | canPut | setDataSink => cases top <;> exact nomatch allowed

/-! ## Returning -/

/-- How many places are left to a walk. -/
def Walk.left (walk : Walk) (length : Nat) : Nat :=
  match walk.next with
  | none => 0
  | some index => length - index

/-- More than the number of call-outs that a call can still make. -/
def Frame.weight (length : Nat) : Frame → Nat
  | .putting _ walk => 2 * walk.left length + 2
  | .failing _ walk => 2 * walk.left length + 1
  | .acking _ _ _ => 2
  | .responding _ _ | .timingOut _ => 1

def EndpointRun.weight (state : EndpointRun) : Nat :=
  (state.frames.map (Frame.weight state.endpoint.requests.length)).sum

/-- A walk goes on behind the request that it gives to the sink. -/
theorem walkFrom_left (state : EndpointRun) (index : Nat) (wasLocked : Bool) :
    state.walkFrom index wasLocked = state.release wasLocked ∨ ∃ handle walk,
      state.walkFrom index wasLocked = (state.log (.put handle)).push (.putting handle walk) ∧
        walk.left state.endpoint.requests.length + 1 ≤ state.endpoint.requests.length - index := by
  unfold EndpointRun.walkFrom
  cases isNext : state.endpoint.nextReady index with
  | none => exact .inl rfl
  | some place =>
      simp only
      split
      · exact .inl rfl
      · rename_i context isContext
        refine .inr ⟨_, _, rfl, ?_⟩
        have inside := (List.getElem?_eq_some_iff.mp isContext).1
        have later : index ≤ place := by
          unfold CoapEndpoint.nextReady at isNext
          split at isNext
          · obtain ⟨offset, -, rfl⟩ := Option.map_eq_some_iff.mp isNext
            exact Nat.le_add_right _ _
          · exact nomatch isNext
        unfold Walk.left
        split
        · omega
        · rename_i isIndex
          split at isIndex
          · rw [← Option.some.inj isIndex]
            omega
          · exact nomatch isIndex

/-- Without a lock the frames do not depend on the requests. -/
theorem weight_unheld {frames : List Frame} (notHeld : held frames = false) (length length' : Nat) :
    frames.map (Frame.weight length) = frames.map (Frame.weight length') := by
  apply List.map_congr_left
  intro frame member
  have noLock := List.any_eq_false.mp notHeld frame member
  cases frame with
  | timingOut => rfl
  | putting | failing | acking | responding => exact absurd rfl noLock

theorem Walking.weight_release {state : EndpointRun} {wasLocked : Bool} (walking : Walking state wasLocked) :
    (state.release wasLocked).weight = state.weight := by
  unfold EndpointRun.release CoapEndpoint.release
  split
  · rfl
  · rename_i notLocked
    have notHeld : held state.frames = false := by
      rw [← walking.wasLocked]
      simpa using notLocked
    simp only [EndpointRun.weight]
    rw [weight_unheld notHeld]

theorem Walking.weight_continueWalk {state : EndpointRun} {walk : Walk} (walking : Walking state walk.wasLocked) :
    (state.continueWalk walk).weight ≤ 2 * walk.left state.endpoint.requests.length + state.weight := by
  have released := walking.weight_release
  unfold EndpointRun.continueWalk Walk.left
  cases walk.next with
  | none =>
      rw [released]
      exact Nat.le_add_left _ _
  | some index =>
      rcases walkFrom_left state index walk.wasLocked with ends | ⟨handle, walk', puts, less⟩
      · simp only [ends, released]
        exact Nat.le_add_left _ _
      · simp only [puts, EndpointRun.push, EndpointRun.log, EndpointRun.weight, List.map_cons, List.sum_cons, Frame.weight]
        omega

/-- Cancelling a request does not change the waiting calls. -/
theorem weight_cancelRequest {state : EndpointRun} (unheld : state.endpoint.locked = false → held state.frames = false)
    (handle : Nat) : (state.cancelRequest handle).1.weight = state.weight := by
  rcases cancelRequest_fst state handle with same | cancels
  · rw [same]
  · rw [cancels]
    unfold CoapEndpoint.cancel
    split
    · simp [EndpointRun.weight, CoapEndpoint.setState, CoapEndpoint.modify]
    · rename_i notLocked
      simp only [EndpointRun.weight]
      rw [weight_unheld (unheld (by simpa using notLocked))]

theorem Walking.cancelRequest_length {state : EndpointRun} {wasLocked : Bool} (walking : Walking state wasLocked)
    (handle : Nat) : (state.cancelRequest handle).1.endpoint.requests.length = state.endpoint.requests.length := by
  rcases cancelRequest_fst state handle with same | cancels
  · rw [same]
  · rw [cancels, CoapEndpoint.cancel_locked walking.locked]
    simp [CoapEndpoint.setState, CoapEndpoint.modify]

theorem Walking.weight_notify {state : EndpointRun} {wasLocked : Bool} (walking : Walking state wasLocked) (handle : Nat)
    (reply : Reply) : (state.notify handle reply wasLocked).weight ≤ 1 + state.weight := by
  unfold EndpointRun.notify
  split
  · rw [walking.weight_release]
    omega
  · simp [EndpointRun.push, EndpointRun.log, EndpointRun.weight, Frame.weight]

/-- Every return of a call-out brings the waiting calls closer to their own returns. -/
theorem Sound.lighter {state state' : EndpointRun} {result : PutResult} (sound : Sound state)
    (waiting : state.frames ≠ []) (resumes : state.resume result = .ok state') : state'.weight < state.weight := by
  have popped : ∀ {frame frames}, state.frames = frame :: frames → state.weight =
      frame.weight state.endpoint.requests.length + EndpointRun.weight { state with frames := frames } := by
    intro frame frames isTop
    simp [EndpointRun.weight, isTop]
  unfold EndpointRun.resume at resumes
  split at resumes
  · rename_i idle
    exact absurd idle waiting
  · rename_i handle walk frames isTop
    have walking := sound.pop isTop rfl
    rw [popped isTop]
    cases result with
    | wouldBlock =>
        rw [← Except.ok.inj resumes, walking.weight_release]
        exact Nat.lt_add_of_pos_left (Nat.succ_pos _)
    | failure =>
        obtain ⟨-, -, told⟩ := bind_ok resumes
        rw [← Except.ok.inj told]
        simp [EndpointRun.push, EndpointRun.log, EndpointRun.weight, Frame.weight]
    | success =>
        obtain ⟨-, -, continues⟩ := bind_ok resumes
        rw [← Except.ok.inj continues]
        have sent := @Walking.modify _ _ walking handle ({ · with state := .waitingForAck }) (fun _ => rfl)
        have less := (sent.log (.sent handle)).weight_continueWalk
        simp only [EndpointRun.log, EndpointRun.weight, CoapEndpoint.modify, List.length_map] at less
        simp only [EndpointRun.log, EndpointRun.weight, CoapEndpoint.setState, CoapEndpoint.modify, Frame.weight]
        omega
  · rename_i handle walk frames isTop
    have walking := sound.pop isTop rfl
    rw [popped isTop, ← Except.ok.inj resumes]
    have less := (walking.cancelRequest handle).weight_continueWalk
    have same := @weight_cancelRequest { state with frames := frames } walking.dirty handle
    have length : ({ state with frames := frames }.cancelRequest handle).1.endpoint.requests.length =
        state.endpoint.requests.length := walking.cancelRequest_length handle
    rw [same, length] at less
    simp only [Frame.weight]
    omega
  · rename_i handle reply wasLocked frames isTop
    have walking := sound.pop isTop rfl
    obtain ⟨-, -, notifies⟩ := bind_ok resumes
    rw [popped isTop, ← Except.ok.inj notifies]
    have less := walking.weight_notify handle reply
    simp only [Frame.weight]
    omega
  · rename_i handle wasLocked frames isTop
    have walking := sound.pop isTop rfl
    obtain ⟨-, -, cancels⟩ := bind_ok resumes
    rw [popped isTop, ← Except.ok.inj cancels, (walking.cancel handle).weight_release]
    simp [EndpointRun.weight, CoapEndpoint.cancel_locked walking.locked, CoapEndpoint.setState, CoapEndpoint.modify,
      Frame.weight]
  · rename_i handle frames isTop
    rw [popped isTop, ← Except.ok.inj resumes, weight_cancelRequest (fun notLocked => (sound.popUnlocked isTop rfl).locked.symm.trans notLocked)]
    exact Nat.lt_add_of_pos_left (Nat.succ_pos _)

/-- Whatever the sink answers, if the listeners and the sink just return then all the calls do. -/
def EndpointRun.Returns (state : EndpointRun) : Prop :=
  ∀ results : Nat → PutResult, ∃ count state', state.run ((List.range count).map fun i => .resume (results i)) = .ok state' ∧
    state'.frames = []

theorem Sound.returns {state : EndpointRun} (sound : Sound state) : state.Returns := by
  intro results
  generalize isWeight : state.weight = weight
  induction weight using Nat.strong_induction_on generalizing state results with
  | _ weight ih =>
      by_cases idle : state.frames = []
      · exact ⟨0, state, rfl, idle⟩
      · obtain ⟨next, resumes, sound'⟩ := sound.resume (results 0)
        have less := sound.lighter idle resumes
        obtain ⟨count, state', runs, isIdle⟩ := ih next.weight (isWeight ▸ less) sound' (fun i => results (i + 1)) rfl
        refine ⟨count + 1, state', ?_, isIdle⟩
        rw [List.range_succ_eq_map, List.map_cons, List.map_map]
        unfold EndpointRun.run at runs ⊢
        rw [List.foldlM_cons]
        simp only [EndpointRun.step, resumes, ok_bind]
        exact runs

/-! ## Runs -/

namespace EndpointRun

theorem run_append (state : EndpointRun) (earlier later : List EndpointStep) :
    state.run (earlier ++ later) = state.run earlier >>= fun state => state.run later := by
  unfold run
  rw [List.foldlM_append]

/-- The steps of a run with listeners and a sink that call the endpoint again, where they may. -/
def Admits (state : EndpointRun) (step : EndpointStep) : Prop := state.Reenters step ∧ state.MayReenter step

instance (state : EndpointRun) (step : EndpointStep) : Decidable (state.Admits step) :=
  inferInstanceAs (Decidable (_ ∧ _))

theorem Permits.append {may : EndpointRun → EndpointStep → Prop} {state : EndpointRun} {earlier later : List EndpointStep}
    (permits : state.Permits may (earlier ++ later)) :
    state.Permits may earlier ∧ ∀ before, state.run earlier = .ok before → before.Permits may later := by
  induction earlier generalizing state with
  | nil => exact ⟨trivial, fun before runs => Except.ok.inj runs ▸ permits⟩
  | cons step earlier ih =>
      refine ⟨⟨permits.1, fun state' steps => (ih (permits.2 state' steps)).1⟩, ?_⟩
      intro before runs
      obtain ⟨state', steps, rest⟩ := bind_ok runs
      exact (ih (permits.2 state' steps)).2 before rest

end EndpointRun

theorem once_run {marks : Nat → Prop} {state : EndpointRun} (sound : Sound state) (once : Once marks state)
    {steps : List EndpointStep} (permits : state.Permits EndpointRun.Admits steps) :
    ∃ state', state.run steps = .ok state' ∧ Sound state' ∧ Once marks state' := by
  induction steps generalizing state with
  | nil => exact ⟨state, rfl, sound, once⟩
  | cons step steps ih =>
      obtain ⟨state', isStep, sound'⟩ := sound.step step
      unfold EndpointRun.run at ih ⊢
      rw [List.foldlM_cons, isStep]
      exact ih sound' (once.step sound permits.1.1 permits.1.2 isStep) (permits.2 state' isStep)

theorem shallow_run {state state' : EndpointRun} (shallow : Shallow state.frames) {steps : List EndpointStep}
    (permits : state.Permits EndpointRun.Admits steps) (fails : state.Permits EndpointRun.KeepsFailing steps)
    (runs : state.run steps = .ok state') : Shallow state'.frames := by
  induction steps generalizing state with
  | nil => exact Except.ok.inj runs ▸ shallow
  | cons step steps ih =>
      obtain ⟨next, isStep, rest⟩ := bind_ok runs
      exact ih (shallow_step shallow permits.1.1 permits.1.2 fails.1 isStep) (permits.2 next isStep) (fails.2 next isStep)
        rest

theorem once_create (tokenPrefix : List UInt8) (tokenCounter : Nat) (connectionSink : Bool) :
    Once (fun _ => False) (EndpointRun.create tokenPrefix tokenCounter connectionSink) :=
  ⟨fun earlier _ _ _ split => absurd split (by simp [EndpointRun.create]), fun _ ⟨_, member, _⟩ => (nomatch member),
    fun _ member => (nomatch member), fun _ member => (nomatch member), .nil, fun _ _ member => (nomatch member), .nil,
    fun _ isMark => isMark.elim⟩

/-- In every run with listeners that send and cancel requests from inside of their callbacks, and a
    sink that delivers messages from inside of `GG_DataSink_PutData`, in which no request is met where the
    code does not look at what a call-out has done to it: all the calls return, and with a sink that
    keeps failing at most two of them wait; each listener is told once how its request ended, and nothing
    after that; and a context that was marked as cancelled stays so until it is destroyed. -/
theorem reentrant_of_run (tokenPrefix : List UInt8) (tokenCounter : Nat) (connectionSink : Bool) (steps : List EndpointStep)
    (permits : (EndpointRun.create tokenPrefix tokenCounter connectionSink).Permits EndpointRun.Admits steps) :
    ∃ state, (EndpointRun.create tokenPrefix tokenCounter connectionSink).run steps = .ok state ∧ state.Returns ∧
      ((EndpointRun.create tokenPrefix tokenCounter connectionSink).Permits EndpointRun.KeepsFailing steps →
        state.frames.length ≤ 2) ∧
      ConcludesOnce state.history ∧
      ∀ earlier later before handle, steps = earlier ++ later →
        (EndpointRun.create tokenPrefix tokenCounter connectionSink).run earlier = .ok before →
        (∃ context, before.endpoint.find handle = some context ∧ context.state = .cancelled) →
        ∀ context, state.endpoint.find handle = some context → context.state = .cancelled := by
  have sound := sound_create tokenPrefix tokenCounter connectionSink
  have once := once_create tokenPrefix tokenCounter connectionSink
  obtain ⟨state, runs, sound', once'⟩ := once_run sound once permits
  refine ⟨state, runs, sound'.returns, ?_, once'.once, ?_⟩
  · intro fails
    exact (shallow_run .idle permits fails runs).length_le
  · rintro earlier later before handle rfl runsEarlier ⟨context, found, isCancelled⟩
    obtain ⟨permitsEarlier, permitsLater⟩ := permits.append
    obtain ⟨before', runs', soundBefore, onceBefore⟩ := once_run sound once permitsEarlier
    rw [runsEarlier] at runs'
    obtain rfl := Except.ok.inj runs'
    -- from here on the handle is watched
    have watched : Once (· = handle) before := by
      refine { onceBefore with marked := ?_ }
      rintro _ rfl
      obtain ⟨member, rfl⟩ := CoapEndpoint.find_eq found
      refine ⟨soundBefore.known context member, ?_⟩
      intro context' isMember same
      rw [List.inj_on_of_nodup_map onceBefore.unique isMember member same]
      exact isCancelled
    obtain ⟨state'', runsLater, -, onceLater⟩ := once_run soundBefore watched (permitsLater before runsEarlier)
    rw [EndpointRun.run_append, runsEarlier] at runs
    obtain rfl := Except.ok.inj (runs.symm.trans runsLater)
    intro context' found'
    obtain ⟨member, isHandle⟩ := CoapEndpoint.find_eq found'
    exact (onceLater.marked handle rfl).2 context' member isHandle

/-- While the second request is given to the sink the response to the first one comes, and its
    listener sends a third request. -/
def nestedSteps : List EndpointStep :=
  [.sendRequest 1000 4, .resume .success, .sendRequest 1000 4, .putData (replyTo 0), .resume .success,
    .sendRequest 1000 4, .resume .success, .resume .success, .resume .success, .resume .success]

theorem reentrant_nestedSteps :
    ∃ state, (EndpointRun.create [] 0 true).run nestedSteps = .ok state ∧ state.frames = [] ∧
      EndpointEvent.response 1 ∈ state.history ∧ EndpointEvent.created 3 4 ∈ state.history ∧
      ConcludesOnce state.history := by
  obtain ⟨state, runs, -, -, once, -⟩ := reentrant_of_run [] 0 true nestedSteps (by decide +kernel)
  have seen : ((EndpointRun.create [] 0 true).run nestedSteps).map (fun state => (state.frames,
      decide (EndpointEvent.response 1 ∈ state.history ∧ EndpointEvent.created 3 4 ∈ state.history))) = .ok ([], true) := by
    decide +kernel
  rw [runs] at seen
  have both := Prod.mk.inj (Except.ok.inj seen)
  have events := of_decide_eq_true both.2
  exact ⟨state, runs, both.1, events.1, events.2, once⟩

/-- The response to a request comes while it is given to the sink: its context is marked, and then it
    waits for an ACK. The same message once more is told to the listener as well. -/
theorem answeredInPut_reopened :
    (EndpointRun.create [] 0 true).Permits EndpointRun.Reenters
        [.sendRequest 1000 4, .putData (replyTo 0), .resume .success, .resume .success, .resume .success,
          .putData (replyTo 0), .resume .success] ∧
    ∃ before after last, (EndpointRun.create [] 0 true).run
        [.sendRequest 1000 4, .putData (replyTo 0), .resume .success, .resume .success] = .ok before ∧
      (before.endpoint.find 1).map (·.state) = some .cancelled ∧
      before.run [.resume .success] = .ok after ∧ (after.endpoint.find 1).map (·.state) = some .waitingForAck ∧
      after.run [.putData (replyTo 0), .resume .success] = .ok last ∧ ¬ ConcludesOnce last.history := by
  refine ⟨by decide +kernel, _, _, _, rfl, rfl, rfl, rfl, rfl, ?_⟩
  intro once
  exact nomatch once [.created 1 4, .put 1, .ack 1] 1 (.response 1) [.sent 1, .ack 1, .response 1] rfl rfl (.ack 1)
    (by simp)

/-! ## Sending again when the sink has failed -/

/-- A listener that sends a request whenever it is told of a failure of the sink. -/
def failingSends : Nat → List EndpointStep
  | 0 => []
  | count + 1 => .sendRequest 1000 4 :: .resume .failure :: failingSends count

/-- The first request that is ready is given to the sink. -/
theorem sendPendingRequests_first {state : EndpointRun} (connected : state.endpoint.connectionSink = true)
    {context : CoapRequestContext} {rest : List CoapRequestContext} (isFirst : state.endpoint.requests = context :: rest)
    (isReady : context.state = .readyToSend) :
    ∃ walk, state.sendPendingRequests =
      ({ state with endpoint := { state.endpoint with locked := true } }.log (.put context.handle)).push
        (.putting context.handle walk) := by
  have isNext : ({ state.endpoint with locked := true } : CoapEndpoint).nextReady 0 = some 0 := by
    simp [CoapEndpoint.nextReady, connected, isFirst, List.findIdx?_cons, isReady]
  have isHead : state.endpoint.requests[0]? = some context := by rw [isFirst]; rfl
  unfold EndpointRun.sendPendingRequests EndpointRun.walkFrom
  simp only [isNext, isHead]
  exact ⟨_, rfl⟩

theorem failingSends_round {state : EndpointRun} (sound : Sound state) (connected : state.endpoint.connectionSink = true)
    (first : ∀ context ∈ state.endpoint.requests.head?, context.state = .readyToSend) :
    ∃ state', state.run [.sendRequest 1000 4, .resume .failure] = .ok state' ∧ Sound state' ∧
      state'.endpoint.connectionSink = true ∧
      (∀ context ∈ state'.endpoint.requests.head?, context.state = .readyToSend) ∧
      state'.frames.length = state.frames.length + 1 := by
  obtain ⟨state', resumes, sound'⟩ := (sound.sendRequest 1000 4).resume .failure
  refine ⟨state', by simp [EndpointRun.run, EndpointRun.step, resumes], sound', ?_⟩
  unfold EndpointRun.sendRequest at resumes
  simp only at resumes
  generalize isContext : CoapRequestContext.mk (state.endpoint.tokenCounter + 1) _ .readyToSend (some true) 1000 0
    (UInt8.ofNat 4) = context at resumes
  have isReady : context.state = .readyToSend := by rw [← isContext]
  obtain ⟨head, rest, isFirst, headReady⟩ : ∃ head rest, state.endpoint.requests ++ [context] = head :: rest ∧
      head.state = .readyToSend := by
    cases isRequests : state.endpoint.requests with
    | nil => exact ⟨context, [], rfl, isReady⟩
    | cons head rest => exact ⟨head, rest ++ [context], rfl, first head (by rw [isRequests]; rfl)⟩
  obtain ⟨walk, puts⟩ := @sendPendingRequests_first ⟨{ state.endpoint with
    tokenCounter := state.endpoint.tokenCounter + 1, requests := state.endpoint.requests ++ [context] }, state.frames,
    state.history ++ [EndpointEvent.created (state.endpoint.tokenCounter + 1) 4]⟩ connected head rest isFirst headReady
  simp only [EndpointRun.log] at resumes
  rw [puts] at resumes
  obtain ⟨-, -, told⟩ := bind_ok resumes
  rw [← Except.ok.inj told]
  refine ⟨connected, ?_, rfl⟩
  intro context' isHead
  simp only [EndpointRun.push, EndpointRun.log, isFirst, List.head?_cons, Option.mem_some_iff] at isHead
  exact isHead ▸ headReady

/-- A listener that sends one request in each of its callbacks, and a sink that keeps failing: the
    calls inside of calls have no end. -/
theorem failingSends_recurse (count : Nat) :
    ∃ state, (EndpointRun.create [] 0 true).run (failingSends count) = .ok state ∧ state.frames.length = count := by
  have rounds : ∀ (count : Nat) (state : EndpointRun), Sound state → state.endpoint.connectionSink = true →
      (∀ context ∈ state.endpoint.requests.head?, context.state = .readyToSend) →
      ∃ state', state.run (failingSends count) = .ok state' ∧ state'.frames.length = state.frames.length + count := by
    intro count
    induction count with
    | zero => exact fun state _ _ _ => ⟨state, rfl, rfl⟩
    | succ count ih =>
        intro state sound connected first
        obtain ⟨state', runs, sound', connected', first', deeper⟩ := failingSends_round sound connected first
        obtain ⟨last, runsLater, depth⟩ := ih state' sound' connected' first'
        refine ⟨last, ?_, by omega⟩
        have isSplit : failingSends (count + 1) = [EndpointStep.sendRequest 1000 4, .resume .failure] ++ failingSends count := rfl
        rw [isSplit, EndpointRun.run_append, runs]
        exact runsLater
  obtain ⟨state, runs, depth⟩ := rounds count (EndpointRun.create [] 0 true) (sound_create [] 0 true) rfl
    (fun _ none => (nomatch none))
  exact ⟨state, runs, by rw [depth]; exact Nat.zero_add _⟩

end GoldenGate.Coap
