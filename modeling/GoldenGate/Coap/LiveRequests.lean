import GoldenGate.Coap.Cancellation

/-! # Live requests

The handle of a request is a counter of 64 bits, which is never 0, and its token is made from the low
32 bits of the counter. So the requests of an endpoint can be told apart as long as there are not more
of them after one that is still there than the token can count.
-/

namespace GoldenGate.Coap

open Memory

/-- The next token counter, which is a handle too. -/
def nextTokenCounter (counter : Nat) : Nat := if (counter + 1) % 2 ^ 64 = 0 then 1 else (counter + 1) % 2 ^ 64

/-- How many requests were made after the one of a handle, when the next one is made. -/
def requestsSince (handle counter : Nat) : Nat :=
  if handle ≤ counter then counter - handle else 2 ^ 64 - 1 - handle + counter

/-- The counter has come round when the request was made, or after it. -/
def HasWrapped (endpoint : CoapEndpoint) (context : CoapRequestContext) : Prop :=
  endpoint.tokenCounter < context.handle ∨
    context.handle = 1 ∧ context.token = endpoint.tokenPrefix ++ bytesFromInt32Be 4294967295

instance (endpoint : CoapEndpoint) (context : CoapRequestContext) : Decidable (HasWrapped endpoint context) :=
  inferInstanceAs (Decidable (_ ∨ _))

/-- The token of the request has not come round. When the counter has, its tokens do one request
    earlier, since the handle 0 is left out. -/
def Recent (endpoint : CoapEndpoint) (context : CoapRequestContext) : Prop :=
  requestsSince context.handle endpoint.tokenCounter + (if HasWrapped endpoint context then 2 else 1) < 2 ^ 32

instance (endpoint : CoapEndpoint) (context : CoapRequestContext) : Decidable (Recent endpoint context) :=
  inferInstanceAs (Decidable (_ < _))

namespace EndpointRun

/-- `GG_CoapEndpoint_SendRequest`, with a token counter of 64 bits. -/
def makeRequest (self : EndpointRun) (resendTimeout : UInt32) (maxResendCount : Nat) : EndpointRun :=
  let token := self.endpoint.tokenPrefix ++ bytesFromInt32Be (UInt32.ofNat self.endpoint.tokenCounter)
  let handle := nextTokenCounter self.endpoint.tokenCounter
  let context : CoapRequestContext := {
    handle := handle
    token := token
    state := .readyToSend
    resendTimer := some true
    resendTimeout := resendTimeout
    resendCount := 0
    maxResendCount := UInt8.ofNat maxResendCount }
  let self := self.log (.created handle maxResendCount)
  { self with endpoint :=
    { self.endpoint with tokenCounter := handle, requests := self.endpoint.requests ++ [context] } }.sendPendingRequests

/-- A step with a token counter of 64 bits. -/
def longStep (self : EndpointRun) : EndpointStep → Access EndpointRun
  | .sendRequest resendTimeout maxResendCount => return self.makeRequest resendTimeout maxResendCount
  | step => self.step step

def longRun (self : EndpointRun) (steps : List EndpointStep) : Access EndpointRun := steps.foldlM longStep self

/-- A request is made when the requests that are there are recent. -/
def MayMake (state : EndpointRun) : EndpointStep → Prop
  | .sendRequest _ _ => ∀ context ∈ state.endpoint.requests, Recent state.endpoint context
  | .cancelRequest _ | .putData _ | .timerFired _ | .canPut | .setDataSink _ | .resume _ => True

/-- All the steps of a run may be taken. -/
def LongPermits (state : EndpointRun) : List EndpointStep → Prop
  | [] => True
  | step :: steps => state.MayMake step ∧ ∀ state', state.longStep step = .ok state' → state'.LongPermits steps

instance (state : EndpointRun) : (step : EndpointStep) → Decidable (state.MayMake step)
  | .sendRequest _ _ => inferInstanceAs (Decidable (∀ context ∈ state.endpoint.requests, _))
  | .cancelRequest _ | .putData _ | .timerFired _ | .canPut | .setDataSink _ | .resume _ => .isTrue trivial

instance decidableLongPermits : (state : EndpointRun) → (steps : List EndpointStep) → Decidable (state.LongPermits steps)
  | _, [] => .isTrue trivial
  | state, step :: steps =>
      match steps' : state.longStep step with
      | .error _ => decidable_of_iff (state.MayMake step)
          ⟨fun may => ⟨may, fun _ isOk => nomatch steps'.symm.trans isOk⟩, And.left⟩
      | .ok next =>
          have := decidableLongPermits next steps
          decidable_of_iff (state.MayMake step ∧ next.LongPermits steps)
            ⟨fun ⟨may, permits⟩ => ⟨may, fun _ isOk => Except.ok.inj (steps'.symm.trans isOk) ▸ permits⟩,
              fun ⟨may, permits⟩ => ⟨may, permits next steps'⟩⟩

/-- The requests of an endpoint can be told apart, and those that are cancelled wait for the return of a
    callback that has locked them. -/
structure Distinguishable (state : EndpointRun) : Prop where
  nonzero : ∀ context ∈ state.endpoint.requests, context.handle ≠ 0
  handles : (state.endpoint.requests.map (·.handle)).Nodup
  tokens : (state.endpoint.requests.map (·.token)).Nodup
  locked : ∀ context ∈ state.endpoint.requests, context.state = .cancelled → state.endpoint.locked = true
  callback : state.endpoint.locked = true → ∃ frame ∈ state.frames, frame.lock.isSome

/-! ## Any token counter -/

/-- The same run with some token counter. -/
def withCounter (self : EndpointRun) (counter : Nat) : EndpointRun :=
  { self with endpoint := { self.endpoint with tokenCounter := counter } }

section Counter

variable (state : EndpointRun) (counter : Nat)

theorem withCounter_release (wasLocked : Bool) :
    (state.withCounter counter).release wasLocked = (state.release wasLocked).withCounter counter := by
  cases wasLocked <;> rfl

theorem withCounter_walkFrom (index : Nat) (wasLocked : Bool) :
    (state.withCounter counter).walkFrom index wasLocked = (state.walkFrom index wasLocked).withCounter counter := by
  have same : (state.withCounter counter).endpoint.nextReady index = state.endpoint.nextReady index := rfl
  unfold walkFrom
  rw [same]
  cases state.endpoint.nextReady index with
  | none => exact withCounter_release state counter wasLocked
  | some place =>
      have sameRequests : (state.withCounter counter).endpoint.requests = state.endpoint.requests := rfl
      dsimp only
      rw [sameRequests]
      cases state.endpoint.requests[place]? with
      | none => exact withCounter_release state counter wasLocked
      | some context => rfl

theorem withCounter_continueWalk (walk : Walk) :
    (state.withCounter counter).continueWalk walk = (state.continueWalk walk).withCounter counter := by
  unfold continueWalk
  cases walk.next with
  | none => exact withCounter_release state counter walk.wasLocked
  | some index => exact withCounter_walkFrom state counter index walk.wasLocked

theorem withCounter_sendPendingRequests :
    (state.withCounter counter).sendPendingRequests = state.sendPendingRequests.withCounter counter :=
  withCounter_walkFrom { state with endpoint := { state.endpoint with locked := true } } counter 0 _

theorem withCounter_cancel (handle : Nat) :
    ({ state.withCounter counter with endpoint := (state.withCounter counter).endpoint.cancel handle } : EndpointRun) =
      ({ state with endpoint := state.endpoint.cancel handle } : EndpointRun).withCounter counter := by
  unfold CoapEndpoint.cancel
  cases isLocked : state.endpoint.locked with
  | true => rw [if_pos rfl, if_pos (show (state.withCounter counter).endpoint.locked = true from isLocked)]; rfl
  | false =>
      have notLocked : ¬ (state.withCounter counter).endpoint.locked = true := by
        rw [show (state.withCounter counter).endpoint.locked = false from isLocked]
        exact Bool.false_ne_true
      rw [if_neg Bool.false_ne_true, if_neg notLocked]
      simp only [withCounter, isLocked]

theorem withCounter_cancelRequest (handle : Nat) : (state.withCounter counter).cancelRequest handle =
    ((state.cancelRequest handle).1.withCounter counter, (state.cancelRequest handle).2) := by
  have same : (state.withCounter counter).endpoint.find handle = state.endpoint.find handle := rfl
  unfold cancelRequest
  rw [same]
  cases state.endpoint.find handle with
  | none => rfl
  | some context => exact Prod.ext (withCounter_cancel state counter handle) rfl

theorem withCounter_onTimerFired (handle : Nat) :
    (state.withCounter counter).onTimerFired handle = (state.onTimerFired handle).withCounter counter := by
  have same : (state.withCounter counter).endpoint.find handle = state.endpoint.find handle := rfl
  unfold onTimerFired
  rw [same]
  cases state.endpoint.find handle with
  | none => rfl
  | some context =>
      dsimp only
      split
      · rfl
      · split
        · exact withCounter_sendPendingRequests { state with endpoint := state.endpoint.modify handle .resending } counter
        · rfl

theorem withCounter_notify (handle : Nat) (reply : Reply) (wasLocked : Bool) :
    (state.withCounter counter).notify handle reply wasLocked = (state.notify handle reply wasLocked).withCounter counter := by
  unfold notify
  split
  · exact withCounter_release state counter wasLocked
  · rfl

theorem withCounter_onResponse (reply : Reply) :
    (state.withCounter counter).onResponse reply = (state.onResponse reply).withCounter counter := by
  have same : (state.withCounter counter).endpoint.requests = state.endpoint.requests := rfl
  unfold onResponse
  dsimp only
  rw [same]
  cases state.endpoint.requests.find? (·.token = reply.token) with
  | none => exact withCounter_release { state with endpoint := { state.endpoint with locked := true } } counter _
  | some context =>
      dsimp only
      split
      · rfl
      · exact withCounter_notify { state with endpoint :=
          ({ state.endpoint with locked := true } : CoapEndpoint).modify context.handle (·.answered reply) } counter _ _ _

theorem withCounter_resume (result : PutResult) : (state.withCounter counter).resume result =
    (state.resume result).map (·.withCounter counter) := by
  obtain ⟨endpoint, frames, history⟩ := state
  cases frames with
  | nil => rfl
  | cons frame frames =>
      let state : EndpointRun := ⟨endpoint, frames, history⟩
      cases frame with
      | putting handle walk =>
          cases result with
          | wouldBlock =>
              exact congrArg Except.ok (withCounter_release state counter walk.wasLocked)
          | failure =>
              change (state.deref handle >>= _) = Except.map _ (state.deref handle >>= _)
              cases state.deref handle with
              | error fault => rfl
              | ok context => rfl
          | success =>
              change (state.deref handle >>= _) = Except.map _ (state.deref handle >>= _)
              cases state.deref handle with
              | error fault => rfl
              | ok context =>
                  exact congrArg Except.ok (withCounter_continueWalk
                    (({ state with endpoint := state.endpoint.setState handle .waitingForAck } :
                      EndpointRun).log (.sent handle)) counter walk)
      | failing handle walk =>
          have cancels := withCounter_cancelRequest state counter handle
          have walks := withCounter_continueWalk
            (cancelRequest state handle).1 counter walk
          refine congrArg Except.ok (Eq.trans ?_ walks)
          exact congrArg (fun cancelled => continueWalk cancelled.1 walk) cancels
      | acking handle reply wasLocked =>
          change (state.deref handle >>= _) = Except.map _ (state.deref handle >>= _)
          cases state.deref handle with
          | error fault => rfl
          | ok context => exact congrArg Except.ok (withCounter_notify state counter _ _ _)
      | responding handle wasLocked =>
          change (state.deref handle >>= _) = Except.map _ (state.deref handle >>= _)
          cases state.deref handle with
          | error fault => rfl
          | ok context =>
              have cancels := withCounter_cancel state counter handle
              have releases := withCounter_release
                { state with endpoint := state.endpoint.cancel handle } counter wasLocked
              refine congrArg Except.ok (Eq.trans ?_ releases)
              exact congrArg (fun cancelled => release cancelled wasLocked) cancels
      | timingOut handle =>
          have cancels := withCounter_cancelRequest state counter handle
          exact congrArg (fun cancelled => Except.ok cancelled.1) cancels

/-- Nothing but a new request looks at the counter. -/
theorem withCounter_step {step : EndpointStep} (notRequest : ∀ time count, step ≠ .sendRequest time count) :
    (state.withCounter counter).step step = (state.step step).map (·.withCounter counter) := by
  cases step with
  | sendRequest time count => exact absurd rfl (notRequest time count)
  | cancelRequest handle =>
      unfold EndpointRun.step
      dsimp only
      rw [withCounter_cancelRequest]
      generalize state.cancelRequest handle = cancels
      obtain ⟨cancelled, found⟩ := cancels
      cases found with
      | true => rfl
      | false => rfl
  | putData reply =>
      refine congrArg Except.ok ?_
      unfold putData
      split
      · rfl
      · exact withCounter_onResponse state counter reply
  | timerFired handle => exact congrArg Except.ok (withCounter_onTimerFired state counter handle)
  | canPut => exact congrArg Except.ok (withCounter_sendPendingRequests state counter)
  | setDataSink connected =>
      cases connected with
      | false => rfl
      | true => exact congrArg Except.ok (withCounter_sendPendingRequests
          { state with endpoint := { state.endpoint with connectionSink := true } } counter)
  | resume result => exact withCounter_resume state counter result

end Counter

end EndpointRun

/-! ## What becomes of the requests -/

/-- The handles and tokens of the requests. -/
def CoapEndpoint.keys (self : CoapEndpoint) : List (Nat × List UInt8) := self.requests.map fun context => (context.handle, context.token)

/-- Some of the requests are left, with the handles and tokens they had, and none is cancelled that does
    not have to wait. -/
structure Settles (before after : CoapEndpoint) : Prop where
  keys : after.keys.Sublist before.keys
  counter : after.tokenCounter = before.tokenCounter
  tokenPrefix : after.tokenPrefix = before.tokenPrefix
  clean : after.locked = false → ∀ context ∈ after.requests, context.state ≠ .cancelled

namespace Settles

variable {state : EndpointRun} {wasLocked : Bool}

theorem of_locked (endpoint : CoapEndpoint) (locked : endpoint.locked = true) : Settles endpoint endpoint :=
  ⟨.refl _, rfl, rfl, fun notLocked => by rw [locked] at notLocked; exact nomatch notLocked⟩

/-- The requests before it may be those of an endpoint with other contexts. -/
theorem of_keys {endpoint endpoint' after : CoapEndpoint} (settles : Settles endpoint after)
    (keys : endpoint.keys = endpoint'.keys) (counter : endpoint.tokenCounter = endpoint'.tokenCounter)
    (tokenPrefix : endpoint.tokenPrefix = endpoint'.tokenPrefix) : Settles endpoint' after :=
  ⟨keys ▸ settles.keys, settles.counter.trans counter, settles.tokenPrefix.trans tokenPrefix, settles.clean⟩

theorem keys_modify (endpoint : CoapEndpoint) (handle : Nat) (f : CoapRequestContext → CoapRequestContext)
    (keeps : ∀ context, (f context).handle = context.handle ∧ (f context).token = context.token) :
    (endpoint.modify handle f).keys = endpoint.keys := by
  unfold CoapEndpoint.keys CoapEndpoint.modify
  rw [List.map_map]
  refine List.map_congr_left fun context _ => ?_
  rw [Function.comp_apply]
  split
  · rw [(keeps context).1, (keeps context).2]
  · rfl

theorem release {endpoint : CoapEndpoint} (locked : endpoint.locked = true) (wasLocked : Bool) :
    Settles endpoint (endpoint.release wasLocked) := by
  unfold CoapEndpoint.release
  cases wasLocked with
  | true => exact of_locked endpoint locked
  | false =>
      refine ⟨List.filter_sublist.map _, rfl, rfl, fun _ context member => ?_⟩
      simpa using (List.mem_filter.mp member).2

theorem walked {state' : EndpointRun} (locked : state.endpoint.locked = true)
    (walks : state' = state.release wasLocked ∨ ∃ context ∈ state.endpoint.requests, context.state = .readyToSend ∧
      ∃ next, state' = (state.log (.put context.handle)).push (.putting context.handle ⟨next, wasLocked⟩)) :
    Settles state.endpoint state'.endpoint := by
  rcases walks with rfl | ⟨context, -, -, next, rfl⟩
  · exact release locked wasLocked
  · exact of_locked _ locked

theorem continueWalk (state : EndpointRun) (locked : state.endpoint.locked = true) (walk : Walk) :
    Settles state.endpoint (state.continueWalk walk).endpoint :=
  walked locked (EndpointRun.continueWalk_cases state walk)

theorem sendPendingRequests (state : EndpointRun) : Settles state.endpoint state.sendPendingRequests.endpoint := by
  have walks := @walked { state with endpoint := { state.endpoint with locked := true } } _ _ rfl
    (EndpointRun.walkFrom_cases _ 0 state.endpoint.locked)
  exact of_keys walks rfl rfl rfl

theorem cancel {endpoint : CoapEndpoint}
    (clean : endpoint.locked = false → ∀ context ∈ endpoint.requests, context.state ≠ .cancelled) (handle : Nat) :
    Settles endpoint (endpoint.cancel handle) := by
  cases isLocked : endpoint.locked with
  | true =>
      rw [CoapEndpoint.cancel_locked isLocked]
      exact of_keys (of_locked (endpoint.setState handle .cancelled) isLocked)
        (keys_modify endpoint handle _ fun _ => ⟨rfl, rfl⟩) rfl rfl
  | false =>
      unfold CoapEndpoint.cancel
      rw [if_neg (by rw [isLocked]; exact Bool.false_ne_true)]
      exact ⟨List.filter_sublist.map _, rfl, rfl, fun _ context member => clean isLocked context (List.mem_filter.mp member).1⟩

theorem notify (state : EndpointRun) (locked : state.endpoint.locked = true) (handle : Nat) (reply : Reply) (wasLocked : Bool) :
    Settles state.endpoint (state.notify handle reply wasLocked).endpoint := by
  unfold EndpointRun.notify
  split
  · exact release locked wasLocked
  · exact of_locked _ locked

theorem onResponse (state : EndpointRun) (reply : Reply) : Settles state.endpoint (state.onResponse reply).endpoint := by
  unfold EndpointRun.onResponse
  dsimp only
  split
  · exact of_keys (release rfl state.endpoint.locked) rfl rfl rfl
  · rename_i context found
    let locked : CoapEndpoint := { state.endpoint with locked := true }
    let answered : EndpointRun := { state with endpoint := locked.modify context.handle (·.answered reply) }
    have keys := keys_modify locked context.handle (·.answered reply) fun _ => ⟨rfl, rfl⟩
    split
    · exact of_keys (of_locked answered.endpoint rfl) keys rfl rfl
    · exact of_keys (notify answered rfl _ _ _) keys rfl rfl

/-- The call-out that returns is that of a call which has locked the requests, or it leaves them alone. -/
theorem resume {state state' : EndpointRun} {result : PutResult} (locks : state.endpoint.locked = held state.frames)
    (clean : state.endpoint.locked = false → ∀ context ∈ state.endpoint.requests, context.state ≠ .cancelled)
    (resumes : state.resume result = .ok state') : Settles state.endpoint state'.endpoint := by
  have locked (frame : Frame) (frames : List Frame) (isTop : state.frames = frame :: frames)
      (isLock : frame.lock.isSome) : state.endpoint.locked = true := by
    rw [locks, isTop, held, List.any_cons, isLock, Bool.true_or]
  have same : Settles state.endpoint state.endpoint := ⟨.refl _, rfl, rfl, clean⟩
  unfold EndpointRun.resume at resumes
  split at resumes
  · rw [← Except.ok.inj resumes]
    exact same
  · rename_i handle walk frames isTop
    have locked := locked _ _ isTop rfl
    cases result with
    | wouldBlock =>
        rw [← Except.ok.inj resumes]
        exact release locked walk.wasLocked
    | failure =>
        obtain ⟨_, -, resumes⟩ := bind_ok resumes
        rw [← Except.ok.inj resumes]
        exact same
    | success =>
        obtain ⟨_, -, resumes⟩ := bind_ok resumes
        rw [← Except.ok.inj resumes]
        let sent : EndpointRun := ⟨state.endpoint.setState handle .waitingForAck, frames, state.history⟩
        exact of_keys (continueWalk (sent.log (.sent handle)) locked walk)
          (keys_modify state.endpoint handle _ fun _ => ⟨rfl, rfl⟩) rfl rfl
  · rename_i handle walk frames isTop
    have locked := locked _ _ isTop rfl
    rw [← Except.ok.inj resumes]
    rcases cancelRequest_fst { state with frames := frames } handle with none_ | cancels
    · rw [none_]
      exact continueWalk { state with frames := frames } locked walk
    · rw [cancels]
      dsimp only
      rw [CoapEndpoint.cancel_locked locked]
      let cancelled : EndpointRun := ⟨state.endpoint.setState handle .cancelled, frames, state.history⟩
      exact of_keys (continueWalk cancelled locked walk) (keys_modify state.endpoint handle _ fun _ => ⟨rfl, rfl⟩) rfl rfl
  · rename_i handle reply wasLocked frames isTop
    obtain ⟨_, -, resumes⟩ := bind_ok resumes
    rw [← Except.ok.inj resumes]
    exact notify { state with frames := frames } (locked _ _ isTop rfl) handle reply wasLocked
  · rename_i handle wasLocked frames isTop
    have locked := locked _ _ isTop rfl
    obtain ⟨_, -, resumes⟩ := bind_ok resumes
    rw [← Except.ok.inj resumes]
    have releases := @release (state.endpoint.setState handle .cancelled) locked wasLocked
    rw [EndpointRun.release, CoapEndpoint.cancel_locked locked]
    exact of_keys releases (keys_modify state.endpoint handle _ fun _ => ⟨rfl, rfl⟩) rfl rfl
  · rename_i handle frames isTop
    rw [← Except.ok.inj resumes]
    rcases cancelRequest_fst { state with frames := frames } handle with none_ | cancels
    · rw [none_]
      exact same
    · rw [cancels]
      exact cancel clean handle

theorem step {state state' : EndpointRun} {step : EndpointStep} (locks : state.endpoint.locked = held state.frames)
    (clean : state.endpoint.locked = false → ∀ context ∈ state.endpoint.requests, context.state ≠ .cancelled)
    (notRequest : ∀ time count, step ≠ .sendRequest time count) (steps : state.step step = .ok state') :
    Settles state.endpoint state'.endpoint := by
  have same : Settles state.endpoint state.endpoint := ⟨.refl _, rfl, rfl, clean⟩
  cases step with
  | sendRequest time count => exact absurd rfl (notRequest time count)
  | cancelRequest handle =>
      rcases EndpointRun.step_cancelRequest state handle with ⟨-, none_⟩ | ⟨context, -, cancels⟩
      · rw [none_] at steps
        rw [← Except.ok.inj steps]
        exact same
      · rw [cancels] at steps
        rw [← Except.ok.inj steps]
        exact cancel clean handle
  | putData reply =>
      rw [← Except.ok.inj steps]
      unfold EndpointRun.putData
      split
      · exact same
      · exact onResponse state reply
  | timerFired handle =>
      rw [← Except.ok.inj steps]
      unfold EndpointRun.onTimerFired
      split
      · exact same
      · split
        · exact same
        · split
          · exact of_keys (sendPendingRequests { state with endpoint := state.endpoint.modify handle .resending })
              (keys_modify state.endpoint handle _ fun _ => ⟨rfl, rfl⟩) rfl rfl
          · -- the timer is all that is changed of the context
            have keys : (state.endpoint.modify handle .timerDue).keys.Sublist state.endpoint.keys := by
              rw [keys_modify state.endpoint handle .timerDue fun _ => ⟨rfl, rfl⟩]
            refine ⟨keys, rfl, rfl, ?_⟩
            intro notLocked context member
            obtain ⟨original, isOriginal, rfl⟩ := List.mem_map.mp member
            have live := clean notLocked original isOriginal
            split
            · exact live
            · exact live
  | canPut =>
      rw [← Except.ok.inj steps]
      exact sendPendingRequests state
  | setDataSink connected =>
      rw [← Except.ok.inj steps]
      cases connected with
      | false => exact ⟨.refl _, rfl, rfl, clean⟩
      | true =>
          exact of_keys (sendPendingRequests { state with endpoint := { state.endpoint with connectionSink := true } })
            rfl rfl rfl
  | resume result => exact resume locks clean steps

end Settles

/-! ## Runs -/

theorem nextTokenCounter_lt (counter : Nat) : nextTokenCounter counter < 2 ^ 64 ∧ nextTokenCounter counter ≠ 0 := by
  unfold nextTokenCounter
  split <;> omega

/-- A new request has another handle than one that is recent, and another token. -/
theorem recent_differs {endpoint : CoapEndpoint} (small : endpoint.tokenCounter < 2 ^ 64) {context : CoapRequestContext}
    {n : Nat} (small' : n < 2 ^ 64) (isHandle : context.handle = nextTokenCounter n)
    (isToken : context.token = endpoint.tokenPrefix ++ bytesFromInt32Be (UInt32.ofNat n)) (recent : Recent endpoint context) :
    nextTokenCounter n ≠ nextTokenCounter endpoint.tokenCounter ∧ n % 2 ^ 32 ≠ endpoint.tokenCounter % 2 ^ 32 := by
  have nonzero := (nextTokenCounter_lt n).2
  have next : nextTokenCounter endpoint.tokenCounter =
      if endpoint.tokenCounter = 2 ^ 64 - 1 then 1 else endpoint.tokenCounter + 1 := by
    unfold nextTokenCounter
    split <;> split <;> omega
  unfold Recent requestsSince at recent
  by_cases last : n = 2 ^ 64 - 1
  · -- the handle 0 was left out for it
    have one : nextTokenCounter n = 1 := by
      subst last
      decide
    have wrapped : HasWrapped endpoint context := by
      refine .inr ⟨isHandle.trans one, ?_⟩
      rw [isToken, last]
      rfl
    rw [if_pos wrapped, isHandle, one] at recent
    rw [next, one]
    split at recent <;> split <;> omega
  · have isNext : nextTokenCounter n = n + 1 := by
      unfold nextTokenCounter
      rw [if_neg (by omega)]
      omega
    rw [next, isNext]
    by_cases later : endpoint.tokenCounter < n + 1
    · have wrapped : HasWrapped endpoint context := .inl (by rw [isHandle, isNext]; exact later)
      rw [if_pos wrapped, isHandle, isNext, if_neg (by omega)] at recent
      split <;> omega
    · rw [isHandle, isNext, if_pos (by omega)] at recent
      split at recent <;> split <;> omega

theorem token_differs {tokenPrefix : List UInt8} {n counter : Nat} (differs : n % 2 ^ 32 ≠ counter % 2 ^ 32) :
    tokenPrefix ++ bytesFromInt32Be (UInt32.ofNat n) ≠ tokenPrefix ++ bytesFromInt32Be (UInt32.ofNat counter) := by
  intro same
  have bytes := List.append_cancel_left same
  simp only [bytesFromInt32Be, List.cons.injEq] at bytes
  have back (value : UInt32) := bytesToInt32Be_from value
  have equal : UInt32.ofNat n = UInt32.ofNat counter := by
    rw [← back (UInt32.ofNat n), ← back (UInt32.ofNat counter), bytes.1, bytes.2.1, bytes.2.2.1, bytes.2.2.2.1]
  apply differs
  rw [← UInt32.toNat_inj, UInt32.toNat_ofNat', UInt32.toNat_ofNat'] at equal
  exact equal

/-- Each request has the handle and the token of some counter, and no two are the same. -/
structure Named (endpoint : CoapEndpoint) : Prop where
  counter : endpoint.tokenCounter < 2 ^ 64
  made : ∀ key ∈ endpoint.keys, ∃ n < 2 ^ 64,
    key = (nextTokenCounter n, endpoint.tokenPrefix ++ bytesFromInt32Be (UInt32.ofNat n))
  handles : (endpoint.keys.map Prod.fst).Nodup
  tokens : (endpoint.keys.map Prod.snd).Nodup

theorem Named.settles {before after : CoapEndpoint} (named : Named before) (settles : Settles before after) :
    Named after := by
  refine ⟨settles.counter ▸ named.counter, ?_, (settles.keys.map _).nodup named.handles,
    (settles.keys.map _).nodup named.tokens⟩
  intro key member
  rw [settles.tokenPrefix]
  exact named.made key (settles.keys.subset member)

/-- An endpoint between two steps. -/
structure Tellable (state : EndpointRun) : Prop where
  sound : Sound (state.withCounter (2 ^ 64))
  clean : state.endpoint.locked = false → ∀ context ∈ state.endpoint.requests, context.state ≠ .cancelled
  named : Named state.endpoint

theorem Tellable.distinguishable {state : EndpointRun} (tellable : Tellable state) : state.Distinguishable := by
  obtain ⟨sound, clean, named⟩ := tellable
  have handles := named.handles
  have tokens := named.tokens
  unfold CoapEndpoint.keys at handles tokens
  rw [List.map_map] at handles tokens
  refine ⟨?_, handles, tokens, ?_, ?_⟩
  · intro context member zero
    obtain ⟨n, -, isKey⟩ := named.made (context.handle, context.token) (List.mem_map.mpr ⟨context, member, rfl⟩)
    exact (nextTokenCounter_lt n).2 ((Prod.mk.inj isKey).1 ▸ zero)
  · intro context member isCancelled
    cases isLocked : state.endpoint.locked with
    | true => rfl
    | false => exact absurd isCancelled (clean isLocked context member)
  · intro isLocked
    have isHeld : held state.frames = true := sound.locked.symm.trans isLocked
    exact List.any_eq_true.mp isHeld

/-- An endpoint with one more request, which is not sent yet. -/
theorem Named.append {endpoint : CoapEndpoint} (named : Named endpoint) {context : CoapRequestContext}
    (recent : ∀ context ∈ endpoint.requests, Recent endpoint context)
    (isHandle : context.handle = nextTokenCounter endpoint.tokenCounter)
    (isToken : context.token = endpoint.tokenPrefix ++ bytesFromInt32Be (UInt32.ofNat endpoint.tokenCounter)) :
    Named { endpoint with
      tokenCounter := nextTokenCounter endpoint.tokenCounter, requests := endpoint.requests ++ [context] } := by
  have keys : ({ endpoint with
      tokenCounter := nextTokenCounter endpoint.tokenCounter
      requests := endpoint.requests ++ [context] } : CoapEndpoint).keys =
        endpoint.keys ++ [(context.handle, context.token)] := List.map_append
  have differs : ∀ key ∈ endpoint.keys, key.1 ≠ context.handle ∧ key.2 ≠ context.token := by
    intro key member
    obtain ⟨n, small, isKey⟩ := named.made key member
    obtain ⟨old, isOld, rfl⟩ := List.mem_map.mp member
    obtain ⟨oldHandle, oldToken⟩ := Prod.mk.inj isKey
    obtain ⟨handles, tokens⟩ := recent_differs named.counter small oldHandle oldToken (recent old isOld)
    dsimp only
    rw [oldHandle, oldToken, isHandle, isToken]
    exact ⟨handles, token_differs tokens⟩
  constructor
  · exact (nextTokenCounter_lt _).1
  · intro key member
    rw [keys] at member
    rcases List.mem_append.mp member with old | new
    · exact named.made key old
    · cases List.mem_singleton.mp new
      exact ⟨endpoint.tokenCounter, named.counter, Prod.ext isHandle isToken⟩
  · rw [keys, List.map_append, List.map_singleton]
    refine List.nodup_append.mpr ⟨named.handles, List.pairwise_singleton _ _, ?_⟩
    intro handle old new isNew
    obtain ⟨key, member, rfl⟩ := List.mem_map.mp old
    rw [List.mem_singleton.mp isNew]
    exact (differs key member).1
  · rw [keys, List.map_append, List.map_singleton]
    refine List.nodup_append.mpr ⟨named.tokens, List.pairwise_singleton _ _, ?_⟩
    intro token old new isNew
    obtain ⟨key, member, rfl⟩ := List.mem_map.mp old
    rw [List.mem_singleton.mp isNew]
    exact (differs key member).2

theorem Tellable.makeRequest {state : EndpointRun} (tellable : Tellable state) (resendTimeout : UInt32) (maxResendCount : Nat)
    (recent : ∀ context ∈ state.endpoint.requests, Recent state.endpoint context) :
    Tellable (state.makeRequest resendTimeout maxResendCount) := by
  unfold EndpointRun.makeRequest
  dsimp only
  generalize isContext : CoapRequestContext.mk _ _ _ _ _ _ _ = context
  have isHandle : context.handle = nextTokenCounter state.endpoint.tokenCounter := by rw [← isContext]
  have isToken : context.token =
      state.endpoint.tokenPrefix ++ bytesFromInt32Be (UInt32.ofNat state.endpoint.tokenCounter) := by rw [← isContext]
  have named := tellable.named.append recent isHandle isToken
  let log := state.log (.created (nextTokenCounter state.endpoint.tokenCounter) maxResendCount)
  let made : EndpointRun := { log with endpoint := { log.endpoint with
    tokenCounter := nextTokenCounter state.endpoint.tokenCounter
    requests := log.endpoint.requests ++ [context] } }
  have settles := Settles.sendPendingRequests made
  have sound : Sound (made.withCounter (2 ^ 64)) := by
    obtain ⟨locked, wellLocked, pointed, known⟩ := tellable.sound
    refine ⟨locked, wellLocked, ?_, ?_⟩
    · intro frame member handle isPointer
      obtain ⟨old, isOld, same⟩ := pointed frame member handle isPointer
      exact ⟨old, List.mem_append_left _ isOld, same⟩
    · intro context' member
      rcases List.mem_append.mp member with old | new
      · exact known context' old
      · rw [List.mem_singleton.mp new, isHandle]
        exact (nextTokenCounter_lt _).1.le
  refine ⟨?_, settles.clean, named.settles settles⟩
  change Sound (made.sendPendingRequests.withCounter (2 ^ 64))
  rw [← EndpointRun.withCounter_sendPendingRequests]
  exact sound.sendPendingRequests

theorem Tellable.step {state : EndpointRun} (tellable : Tellable state) (step : EndpointStep) (may : state.MayMake step) :
    ∃ state', state.longStep step = .ok state' ∧ Tellable state' := by
  by_cases notRequest : ∀ time count, step ≠ .sendRequest time count
  · have isStep : state.longStep step = state.step step := by
      cases step with
      | sendRequest time count => exact absurd rfl (notRequest time count)
      | cancelRequest | putData | timerFired | canPut | setDataSink | resume => rfl
    obtain ⟨counted, steps, sound⟩ := tellable.sound.step step
    rw [EndpointRun.withCounter_step state _ notRequest] at steps
    rw [isStep]
    cases result : state.step step with
    | error fault =>
        rw [result] at steps
        exact nomatch steps
    | ok state' =>
        rw [result] at steps
        have settles := @Settles.step state _ _ tellable.sound.locked tellable.clean notRequest result
        refine ⟨state', rfl, ?_, settles.clean, tellable.named.settles settles⟩
        rw [show state'.withCounter (2 ^ 64) = counted from Except.ok.inj steps]
        exact sound
  · obtain ⟨time, count, rfl⟩ : ∃ time count, step = .sendRequest time count := by simpa using notRequest
    exact ⟨_, rfl, tellable.makeRequest time count may⟩

theorem tellable_create (tokenPrefix : List UInt8) {tokenCounter : Nat} (small : tokenCounter < 2 ^ 64) (connectionSink : Bool) :
    Tellable (EndpointRun.create tokenPrefix tokenCounter connectionSink) :=
  ⟨sound_create tokenPrefix (2 ^ 64) connectionSink, fun _ _ member => (nomatch member), small,
    fun _ member => (nomatch member), List.nodup_nil, List.nodup_nil⟩

theorem Tellable.run {state : EndpointRun} (tellable : Tellable state) {steps : List EndpointStep}
    (permits : state.LongPermits steps) : ∃ state', state.longRun steps = .ok state' ∧ Tellable state' := by
  induction steps generalizing state with
  | nil => exact ⟨state, rfl, tellable⟩
  | cons step steps ih =>
      obtain ⟨next, isNext, tellable⟩ := tellable.step step permits.1
      obtain ⟨state', runs, tellable'⟩ := ih tellable (permits.2 next isNext)
      refine ⟨state', ?_, tellable'⟩
      rw [EndpointRun.longRun, List.foldlM_cons, isNext]
      exact runs

/-- In every run the requests of an endpoint can be told apart, as long as a request is made only when
    those that are there are recent. -/
theorem EndpointRun.live_requests_distinguishable (tokenPrefix : List UInt8) {tokenCounter : Nat}
    (small : tokenCounter < 2 ^ 64) (connectionSink : Bool) (steps : List EndpointStep)
    (permits : (EndpointRun.create tokenPrefix tokenCounter connectionSink).LongPermits steps) :
    ∃ state, (EndpointRun.create tokenPrefix tokenCounter connectionSink).longRun steps = .ok state ∧ state.Distinguishable := by
  obtain ⟨state, runs, tellable⟩ := (tellable_create tokenPrefix small connectionSink).run permits
  exact ⟨state, runs, tellable.distinguishable⟩

theorem EndpointRun.live_requests_distinguishable_two :
    ∃ state, (EndpointRun.create [1] 4294967295 true).longRun
      [.sendRequest 2000 4, .resume .success, .sendRequest 2000 4, .cancelRequest 4294967296, .resume .wouldBlock] = .ok state ∧
      state.Distinguishable :=
  live_requests_distinguishable [1] (by decide) true _ (by decide +kernel)

/-! ## The token comes round -/

namespace EndpointRun

/-- A request that is kept while others are made. -/
def patient : CoapRequestContext := ⟨1, [0, 0, 0, 0], .readyToSend, some true, 4294967295, 0, 4⟩

/-- Requests that are made and cancelled, with nowhere to send them to. -/
def cycles (count : Nat) : List EndpointStep :=
  (List.range count).flatMap fun n => [.sendRequest 2000 4, .cancelRequest (n + 2)]

theorem longRun_append {state next last : EndpointRun} {steps steps' : List EndpointStep}
    (runs : state.longRun steps = .ok next) (runs' : next.longRun steps' = .ok last) :
    state.longRun (steps ++ steps') = .ok last := by
  unfold longRun at runs ⊢
  rw [List.foldlM_append, runs, ok_bind]
  exact runs'

/-- A request that is made is the last one in the list. -/
theorem longRun_sendRequest (count : Nat) (small : count + 2 < 2 ^ 64) (history : List EndpointEvent) :
    ∃ history', longRun ⟨⟨[], count + 1, [patient], false, false⟩, [], history⟩ [.sendRequest 2000 4] =
      .ok ⟨⟨[], count + 2, [patient, ⟨count + 2, bytesFromInt32Be (UInt32.ofNat (count + 1)), .readyToSend, some true, 2000, 0, 4⟩],
        false, false⟩, [], history'⟩ := by
  have next : nextTokenCounter (count + 1) = count + 2 := by
    unfold nextTokenCounter
    rw [if_neg (by omega)]
    omega
  refine ⟨history ++ [EndpointEvent.created (count + 2) 4], ?_⟩
  rw [← next]
  rfl

theorem longRun_cycles (count : Nat) (small : count + 1 < 2 ^ 64) (start : List EndpointEvent) : ∃ history,
    longRun ⟨⟨[], 1, [patient], false, false⟩, [], start⟩ (cycles count) =
      .ok ⟨⟨[], count + 1, [patient], false, false⟩, [], history⟩ := by
  induction count with
  | zero => exact ⟨start, rfl⟩
  | succ count ih =>
      obtain ⟨history, runs⟩ := ih (by omega)
      obtain ⟨history', made⟩ := longRun_sendRequest count small history
      have last : cycles (count + 1) = cycles count ++ ([EndpointStep.sendRequest 2000 4] ++ [EndpointStep.cancelRequest (count + 2)]) := by
        unfold cycles
        rw [List.range_succ, List.flatMap_append, List.flatMap_singleton]
        rfl
      refine ⟨history' ++ [EndpointEvent.cancel (count + 2)], ?_⟩
      rw [last]
      refine longRun_append runs (longRun_append made ?_)
      have other : patient.handle ≠ count + 2 := by
        change 1 ≠ count + 2
        omega
      simp [longRun, longStep, EndpointRun.step, cancelRequest, CoapEndpoint.find, CoapEndpoint.cancel, log, other]

/-- A request that is kept meets its own token again. -/
theorem live_requests_same_token : ∃ steps state,
    (EndpointRun.create [] 0 false).longRun steps = .ok state ∧ ¬ state.Distinguishable := by
  obtain ⟨history, runs⟩ := longRun_cycles (2 ^ 32 - 1) (by decide) [.created 1 4]
  obtain ⟨history', made⟩ := longRun_sendRequest (2 ^ 32 - 1) (by decide) history
  have starts : (EndpointRun.create [] 0 false).longRun [.sendRequest 4294967295 4] =
      .ok ⟨⟨[], 1, [patient], false, false⟩, [], [.created 1 4]⟩ := rfl
  refine ⟨_, _, longRun_append starts (longRun_append runs made), fun distinguishable => ?_⟩
  have tokens := distinguishable.tokens
  rw [List.map_cons, List.map_cons, List.nodup_cons] at tokens
  exact tokens.1 (List.mem_cons.mpr (.inl (by decide)))

end EndpointRun

end GoldenGate.Coap
