import GoldenGate.Coap.Endpoint

/-! # Frames of an endpoint

Whatever is done inside of the call-outs, the lock and the contexts that the waiting calls point
to stay as they were left: the requests are locked as long as some frame has locked them, and a
locked context is not destroyed.
-/

namespace GoldenGate.Coap

open Memory

/-! ## What the operations do -/

namespace EndpointRun

/-- A walk ends, or it gives a request that is ready to the sink. -/
theorem walkFrom_cases (state : EndpointRun) (index : Nat) (wasLocked : Bool) :
    state.walkFrom index wasLocked = state.release wasLocked ∨
      ∃ context ∈ state.endpoint.requests, context.state = .readyToSend ∧ ∃ next,
        state.walkFrom index wasLocked =
          (state.log (.put context.handle)).push (.putting context.handle ⟨next, wasLocked⟩) := by
  unfold walkFrom
  cases isNext : state.endpoint.nextReady index with
  | none => exact .inl rfl
  | some place =>
      simp only
      split
      · exact .inl rfl
      · rename_i context isContext
        refine .inr ⟨context, List.mem_of_getElem? isContext, ?_, _, rfl⟩
        unfold CoapEndpoint.nextReady at isNext
        split at isNext
        · obtain ⟨offset, isOffset, rfl⟩ := Option.map_eq_some_iff.mp isNext
          obtain ⟨found, isReady, -⟩ := List.findIdx?_eq_some_iff_getElem.mp isOffset
          rw [List.getElem_drop] at isReady
          rw [List.getElem?_eq_getElem (by rw [List.length_drop] at found; omega)] at isContext
          rw [Option.some.inj isContext] at isReady
          simpa using isReady
        · exact nomatch isNext

theorem continueWalk_cases (state : EndpointRun) (walk : Walk) :
    state.continueWalk walk = state.release walk.wasLocked ∨
      ∃ context ∈ state.endpoint.requests, context.state = .readyToSend ∧ ∃ next,
        state.continueWalk walk =
          (state.log (.put context.handle)).push (.putting context.handle ⟨next, walk.wasLocked⟩) := by
  unfold continueWalk
  split
  · exact .inl rfl
  · exact walkFrom_cases state _ _

/-- The application cancels a request that is there. -/
theorem step_cancelRequest (state : EndpointRun) (handle : Nat) :
    (state.endpoint.find handle = none ∧ state.step (.cancelRequest handle) = .ok state) ∨
      ∃ context, state.endpoint.find handle = some context ∧ state.step (.cancelRequest handle) =
        .ok ({ state with endpoint := state.endpoint.cancel handle }.log (.cancel handle)) := by
  simp only [step, cancelRequest]
  cases state.endpoint.find handle with
  | none => exact .inl ⟨rfl, rfl⟩
  | some context => exact .inr ⟨context, rfl, rfl⟩

end EndpointRun

/-! ## The lock -/

/-- Whether a waiting call has found the requests locked, if it has locked them. -/
def Frame.lock : Frame → Option Bool
  | .putting _ walk | .failing _ walk => some walk.wasLocked
  | .acking _ _ wasLocked | .responding _ wasLocked => some wasLocked
  | .timingOut _ => none

/-- The context that a waiting call points to. -/
def Frame.pointer : Frame → Option Nat
  | .putting handle _ | .acking handle _ _ | .responding handle _ => some handle
  | .failing _ _ | .timingOut _ => none

def held (frames : List Frame) : Bool := frames.any (·.lock.isSome)

/-- Each frame has found the lock as the frames below it have left it. -/
def WellLocked : List Frame → Prop
  | [] => True
  | frame :: frames => (∀ wasLocked ∈ frame.lock, wasLocked = held frames) ∧ WellLocked frames

/-- The contexts that the frames point to exist. -/
def Pointed (state : EndpointRun) : Prop :=
  ∀ frame ∈ state.frames, ∀ handle ∈ frame.pointer, ∃ context ∈ state.endpoint.requests, context.handle = handle

/-- An endpoint between two steps. -/
structure Sound (state : EndpointRun) : Prop where
  locked : state.endpoint.locked = held state.frames
  wellLocked : WellLocked state.frames
  pointed : Pointed state
  known : ∀ context ∈ state.endpoint.requests, context.handle ≤ state.endpoint.tokenCounter

/-- An endpoint in the middle of a step that has locked the requests. -/
structure Walking (state : EndpointRun) (wasLocked : Bool) : Prop where
  locked : state.endpoint.locked = true
  wasLocked : wasLocked = held state.frames
  wellLocked : WellLocked state.frames
  pointed : Pointed state
  known : ∀ context ∈ state.endpoint.requests, context.handle ≤ state.endpoint.tokenCounter

theorem deref_of_mem {state : EndpointRun} {handle : Nat}
    (exists' : ∃ context ∈ state.endpoint.requests, context.handle = handle) :
    ∃ context ∈ state.endpoint.requests, context.handle = handle ∧ state.deref handle = .ok context := by
  unfold EndpointRun.deref CoapEndpoint.find
  cases found : state.endpoint.requests.find? (·.handle = handle) with
  | none =>
      obtain ⟨context, member, same⟩ := exists'
      exact absurd same (by simpa using List.find?_eq_none.mp found context member)
  | some context =>
      exact ⟨context, List.mem_of_find?_eq_some found, by simpa using List.find?_some found, rfl⟩

/-- With no lock held no frame points to a context. -/
theorem pointed_of_not_held {state : EndpointRun} (notHeld : held state.frames = false) : Pointed state := by
  intro frame member handle isPointer
  have noLock : frame.lock = none := by
    simpa [held] using List.any_eq_false.mp notHeld frame member
  cases frame with
  | timingOut handle' => exact nomatch isPointer
  | putting | failing | acking | responding => exact nomatch noLock

theorem Walking.release {state : EndpointRun} {wasLocked : Bool} (walking : Walking state wasLocked) :
    Sound (state.release wasLocked) := by
  unfold EndpointRun.release CoapEndpoint.release
  split
  · rename_i isLocked
    exact ⟨by rw [walking.locked, ← walking.wasLocked, isLocked], walking.wellLocked, walking.pointed, walking.known⟩
  · rename_i notLocked
    have notHeld : held state.frames = false := by rw [← walking.wasLocked]; simpa using notLocked
    refine ⟨notHeld.symm, walking.wellLocked, pointed_of_not_held notHeld, ?_⟩
    intro context member
    exact walking.known context (List.mem_filter.mp member).1

/-- A call-out is made. -/
theorem Walking.push {state : EndpointRun} {wasLocked : Bool} (walking : Walking state wasLocked) {frame : Frame}
    (locks : frame.lock = some wasLocked)
    (points : ∀ handle ∈ frame.pointer, ∃ context ∈ state.endpoint.requests, context.handle = handle) :
    Sound (state.push frame) := by
  refine ⟨?_, ⟨?_, walking.wellLocked⟩, ?_, walking.known⟩
  · simp [EndpointRun.push, held, walking.locked, locks]
  · intro wasLocked' isLock
    rw [locks] at isLock
    rw [← Option.some.inj isLock]
    exact walking.wasLocked
  · intro frame' member
    rcases List.mem_cons.mp member with rfl | below
    · exact points
    · exact walking.pointed frame' below

theorem Walking.log {state : EndpointRun} {wasLocked : Bool} (walking : Walking state wasLocked) (event : EndpointEvent) :
    Walking (state.log event) wasLocked :=
  ⟨walking.locked, walking.wasLocked, walking.wellLocked, walking.pointed, walking.known⟩

theorem Walking.walked {state state' : EndpointRun} {wasLocked : Bool} (walking : Walking state wasLocked)
    (walks : state' = state.release wasLocked ∨ ∃ context ∈ state.endpoint.requests, context.state = .readyToSend ∧
      ∃ next, state' = (state.log (.put context.handle)).push (.putting context.handle ⟨next, wasLocked⟩)) :
    Sound state' := by
  rcases walks with rfl | ⟨context, member, -, next, rfl⟩
  · exact walking.release
  · apply (walking.log _).push rfl
    intro handle isHandle
    exact ⟨context, member, Option.some.inj isHandle⟩

/-- Changing a context keeps its handle. -/
theorem exists_modify {endpoint : CoapEndpoint} {handle handle' : Nat} {f : CoapRequestContext → CoapRequestContext}
    (keeps : ∀ context, (f context).handle = context.handle)
    (exists' : ∃ context ∈ endpoint.requests, context.handle = handle') :
    ∃ context ∈ (endpoint.modify handle f).requests, context.handle = handle' := by
  obtain ⟨context, member, same⟩ := exists'
  refine ⟨_, List.mem_map.mpr ⟨context, member, rfl⟩, ?_⟩
  split
  · rw [keeps, same]
  · exact same

theorem known_modify {endpoint : CoapEndpoint} {handle : Nat} {f : CoapRequestContext → CoapRequestContext} {bound : Nat}
    (keeps : ∀ context, (f context).handle = context.handle)
    (known : ∀ context ∈ endpoint.requests, context.handle ≤ bound) :
    ∀ context ∈ (endpoint.modify handle f).requests, context.handle ≤ bound := by
  intro context member
  obtain ⟨original, isOriginal, rfl⟩ := List.mem_map.mp member
  split
  · rw [keeps]
    exact known original isOriginal
  · exact known original isOriginal

theorem Walking.modify {state : EndpointRun} {wasLocked : Bool} (walking : Walking state wasLocked) {handle : Nat}
    {f : CoapRequestContext → CoapRequestContext} (keeps : ∀ context, (f context).handle = context.handle) :
    Walking { state with endpoint := state.endpoint.modify handle f } wasLocked :=
  ⟨walking.locked, walking.wasLocked, walking.wellLocked,
    fun frame member handle isPointer => exists_modify keeps (walking.pointed frame member handle isPointer),
    known_modify keeps walking.known⟩

/-- The requests are locked. -/
theorem Sound.lock {state : EndpointRun} (sound : Sound state) :
    Walking { state with endpoint := { state.endpoint with locked := true } } state.endpoint.locked :=
  ⟨rfl, sound.locked, sound.wellLocked, sound.pointed, sound.known⟩

/-- The innermost call-out returns to a call that has locked the requests. -/
theorem Sound.pop {state : EndpointRun} (sound : Sound state) {frame : Frame} {frames : List Frame}
    (isTop : state.frames = frame :: frames) {wasLocked : Bool} (locks : frame.lock = some wasLocked) :
    Walking { state with frames := frames } wasLocked := by
  have wellLocked := sound.wellLocked
  rw [isTop] at wellLocked
  refine ⟨?_, wellLocked.1 wasLocked locks, wellLocked.2, ?_, sound.known⟩
  · simp [sound.locked, isTop, held, locks]
  · intro frame' member
    exact sound.pointed frame' (by rw [isTop]; exact List.mem_cons_of_mem _ member)

/-- The innermost call-out returns to a call that has not locked the requests. -/
theorem Sound.popUnlocked {state : EndpointRun} (sound : Sound state) {frame : Frame} {frames : List Frame}
    (isTop : state.frames = frame :: frames) (noLock : frame.lock = none) : Sound { state with frames := frames } := by
  have wellLocked := sound.wellLocked
  rw [isTop] at wellLocked
  refine ⟨?_, wellLocked.2, ?_, sound.known⟩
  · simp [sound.locked, isTop, held, noLock]
  · intro frame' member
    exact sound.pointed frame' (by rw [isTop]; exact List.mem_cons_of_mem _ member)

/-! ## Steps -/

theorem Sound.sendPendingRequests {state : EndpointRun} (sound : Sound state) : Sound state.sendPendingRequests :=
  sound.lock.walked (EndpointRun.walkFrom_cases _ _ _)

theorem Sound.sendRequest {state : EndpointRun} (sound : Sound state) (resendTimeout : UInt32) (maxResendCount : Nat) :
    Sound (state.sendRequest resendTimeout maxResendCount) := by
  apply Sound.sendPendingRequests
  refine ⟨sound.locked, sound.wellLocked, ?_, ?_⟩
  · intro frame member handle isPointer
    obtain ⟨context, isContext, same⟩ := sound.pointed frame member handle isPointer
    exact ⟨context, List.mem_append_left _ isContext, same⟩
  · intro context member
    rcases List.mem_append.mp member with old | new
    · exact Nat.le_succ_of_le (sound.known context old)
    · rw [List.mem_singleton.mp new]

/-- A request is marked as cancelled, or it is destroyed if nobody has locked the requests. -/
theorem Sound.cancel {state : EndpointRun} (sound : Sound state) (handle : Nat) :
    Sound { state with endpoint := state.endpoint.cancel handle } := by
  unfold CoapEndpoint.cancel
  split
  · exact ⟨sound.locked, sound.wellLocked,
      fun frame member handle isPointer => exists_modify (fun _ => rfl) (sound.pointed frame member handle isPointer),
      known_modify (fun _ => rfl) sound.known⟩
  · rename_i notLocked
    have notHeld : held state.frames = false := by rw [← sound.locked]; simpa using notLocked
    refine ⟨sound.locked, sound.wellLocked, pointed_of_not_held notHeld, ?_⟩
    intro context member
    exact sound.known context (List.mem_filter.mp member).1

theorem CoapEndpoint.cancel_locked {endpoint : CoapEndpoint} (locked : endpoint.locked = true) (handle : Nat) :
    endpoint.cancel handle = endpoint.setState handle .cancelled := by
  rw [cancel, if_pos locked]

/-- While the requests are locked some may be marked. -/
theorem Walking.dirty {state : EndpointRun} {wasLocked : Bool} (walking : Walking state wasLocked) {p : Prop}
    (notLocked : state.endpoint.locked = false) : p := by
  rw [walking.locked] at notLocked
  exact nomatch notLocked

theorem Walking.cancel {state : EndpointRun} {wasLocked : Bool} (walking : Walking state wasLocked) (handle : Nat) :
    Walking { state with endpoint := state.endpoint.cancel handle } wasLocked := by
  rw [CoapEndpoint.cancel_locked walking.locked]
  exact walking.modify (fun _ => rfl)

theorem cancelRequest_fst (state : EndpointRun) (handle : Nat) :
    (state.cancelRequest handle).1 = state ∨
      (state.cancelRequest handle).1 = { state with endpoint := state.endpoint.cancel handle } := by
  unfold EndpointRun.cancelRequest
  split
  · exact .inl rfl
  · exact .inr rfl

theorem Walking.cancelRequest {state : EndpointRun} {wasLocked : Bool} (walking : Walking state wasLocked) (handle : Nat) :
    Walking (state.cancelRequest handle).1 wasLocked := by
  rcases cancelRequest_fst state handle with same | cancels
  · rw [same]
    exact walking
  · rw [cancels]
    exact walking.cancel handle

theorem Sound.cancelRequest {state : EndpointRun} (sound : Sound state) (handle : Nat) :
    Sound (state.cancelRequest handle).1 := by
  rcases cancelRequest_fst state handle with same | cancels
  · rw [same]
    exact sound
  · rw [cancels]
    exact sound.cancel handle

theorem Sound.onTimerFired {state : EndpointRun} (sound : Sound state) (handle : Nat) :
    Sound (state.onTimerFired handle) := by
  have modified : ∀ f : CoapRequestContext → CoapRequestContext, (∀ context, (f context).handle = context.handle) →
      Sound { state with endpoint := state.endpoint.modify handle f } := by
    intro f keeps
    exact ⟨sound.locked, sound.wellLocked,
      fun frame member handle isPointer => exists_modify keeps (sound.pointed frame member handle isPointer),
      known_modify keeps sound.known⟩
  unfold EndpointRun.onTimerFired
  split
  · exact sound
  · split
    · exact sound
    · split
      · exact (modified CoapRequestContext.resending (fun _ => rfl)).sendPendingRequests
      · have due := modified CoapRequestContext.timerDue (fun _ => rfl)
        refine ⟨due.locked, ⟨fun _ none => (nomatch none), due.wellLocked⟩, ?_, due.known⟩
        intro frame member
        rcases List.mem_cons.mp member with rfl | below
        · exact fun _ none => (nomatch none)
        · exact due.pointed frame below

theorem Walking.notify {state : EndpointRun} {wasLocked : Bool} (walking : Walking state wasLocked) {handle : Nat}
    (exists' : ∃ context ∈ state.endpoint.requests, context.handle = handle) (reply : Reply) :
    Sound (state.notify handle reply wasLocked) := by
  unfold EndpointRun.notify
  split
  · exact walking.release
  · apply (walking.log _).push rfl
    intro handle' isHandle
    rw [← Option.some.inj isHandle]
    exact exists'

theorem Sound.onResponse {state : EndpointRun} (sound : Sound state) (reply : Reply) : Sound (state.onResponse reply) := by
  have walking := sound.lock
  unfold EndpointRun.onResponse
  simp only
  split
  · exact walking.release
  · rename_i context found
    have exists' := @exists_modify { state.endpoint with locked := true } context.handle context.handle (·.answered reply)
      (fun _ => rfl) ⟨context, List.mem_of_find?_eq_some found, rfl⟩
    have answered := @Walking.modify _ _ walking context.handle (·.answered reply) (fun _ => rfl)
    split
    · apply (answered.log _).push rfl
      intro handle isHandle
      rw [← Option.some.inj isHandle]
      exact exists'
    · exact answered.notify exists' reply

theorem Sound.resume {state : EndpointRun} (sound : Sound state) (result : PutResult) :
    ∃ state', state.resume result = .ok state' ∧ Sound state' := by
  unfold EndpointRun.resume
  split
  · exact ⟨state, rfl, sound⟩
  · rename_i handle walk frames isTop
    have walking := sound.pop isTop rfl
    have exists' := sound.pointed (.putting handle walk) (by rw [isTop]; exact List.mem_cons_self) handle rfl
    obtain ⟨context, -, -, deref⟩ := @deref_of_mem { state with frames := frames } handle exists'
    cases result with
    | wouldBlock => exact ⟨_, rfl, walking.release⟩
    | failure =>
        refine ⟨_, by simp only [deref, ok_bind]; rfl, ?_⟩
        exact (walking.log _).push rfl (fun _ none => (nomatch none))
    | success =>
        refine ⟨_, by simp only [deref, ok_bind]; rfl, ?_⟩
        have sent := @Walking.modify _ _ walking handle ({ · with state := .waitingForAck }) (fun _ => rfl)
        exact (sent.log (.sent handle)).walked (EndpointRun.continueWalk_cases _ _)
  · rename_i handle walk frames isTop
    have walking := sound.pop isTop rfl
    exact ⟨_, rfl, (walking.cancelRequest handle).walked (EndpointRun.continueWalk_cases _ _)⟩
  · rename_i handle reply wasLocked frames isTop
    have walking := sound.pop isTop rfl
    have exists' := sound.pointed (.acking handle reply wasLocked) (by rw [isTop]; exact List.mem_cons_self) handle rfl
    obtain ⟨context, -, -, deref⟩ := @deref_of_mem { state with frames := frames } handle exists'
    refine ⟨_, by simp only [deref, ok_bind]; rfl, ?_⟩
    exact walking.notify exists' reply
  · rename_i handle wasLocked frames isTop
    have walking := sound.pop isTop rfl
    have exists' := sound.pointed (.responding handle wasLocked) (by rw [isTop]; exact List.mem_cons_self) handle rfl
    obtain ⟨context, -, -, deref⟩ := @deref_of_mem { state with frames := frames } handle exists'
    refine ⟨_, by simp only [deref, ok_bind]; rfl, ?_⟩
    exact (walking.cancel handle).release
  · rename_i handle frames isTop
    exact ⟨_, rfl, (sound.popUnlocked isTop rfl).cancelRequest handle⟩

/-- No step uses a context that was destroyed. -/
theorem Sound.step {state : EndpointRun} (sound : Sound state) (step : EndpointStep) :
    ∃ state', state.step step = .ok state' ∧ Sound state' := by
  cases step with
  | sendRequest resendTimeout maxResendCount => exact ⟨_, rfl, sound.sendRequest resendTimeout maxResendCount⟩
  | cancelRequest handle =>
      rcases EndpointRun.step_cancelRequest state handle with ⟨-, same⟩ | ⟨context, -, cancels⟩
      · exact ⟨_, same, sound⟩
      · have cancelled := sound.cancel handle
        exact ⟨_, cancels, cancelled.locked, cancelled.wellLocked, cancelled.pointed, cancelled.known⟩
  | putData reply =>
      refine ⟨_, rfl, ?_⟩
      unfold EndpointRun.putData
      split
      · exact sound
      · exact sound.onResponse reply
  | timerFired handle => exact ⟨_, rfl, sound.onTimerFired handle⟩
  | canPut => exact ⟨_, rfl, sound.sendPendingRequests⟩
  | setDataSink connected =>
      refine ⟨_, rfl, ?_⟩
      have connects : Sound { state with endpoint := { state.endpoint with connectionSink := connected } } :=
        ⟨sound.locked, sound.wellLocked, sound.pointed, sound.known⟩
      split
      · exact connects.sendPendingRequests
      · exact connects
  | resume result => exact sound.resume result

theorem sound_create (tokenPrefix : List UInt8) (tokenCounter : Nat) (connectionSink : Bool) :
    Sound (EndpointRun.create tokenPrefix tokenCounter connectionSink) :=
  ⟨rfl, trivial, fun _ member => (nomatch member), fun _ member => (nomatch member)⟩

end GoldenGate.Coap
