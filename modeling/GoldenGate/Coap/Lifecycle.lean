import GoldenGate.Coap.Cancellation
import Mathlib.Data.List.Nodup

/-! # The life of a request

What a listener is told when neither the listeners nor the sink call the endpoint again: at most
one ACK, then at most one response or error, and nothing after that. The request is given to the
sink as often as it may be resent, and it ends with a timeout if nothing else happens to it.
-/

namespace GoldenGate.Coap

open Memory

/-! ## What a listener is told -/

/-- The listener of a request is called. -/
def EndpointEvent.tellsListener (handle : Nat) : EndpointEvent → Bool
  | .ack handle' | .response handle' | .error handle' _ => handle' = handle
  | .created _ _ | .put _ | .sent _ | .cancel _ => false

/-- The calls of the listener of a request. -/
def callbacks (history : List EndpointEvent) (handle : Nat) : List EndpointEvent :=
  history.filter (·.tellsListener handle)

/-- The listener has been told how the request ended, after an ACK or without one. -/
def Ended (handle : Nat) (calls : List EndpointEvent) : Prop :=
  calls = [.ack handle, .response handle] ∨ ∃ error, calls = [.error handle error] ∨ calls = [.ack handle, .error handle error]

/-- At most one ACK, then at most one response or error, and nothing after that. -/
def Orderly (handle : Nat) (calls : List EndpointEvent) : Prop :=
  calls = [] ∨ calls = [.ack handle] ∨ Ended handle calls

/-- The waiting call has told the listener how the request ended. -/
def Frame.finishes (handle : Nat) : Frame → Bool
  | .failing handle' _ | .responding handle' _ | .timingOut handle' => handle' = handle
  | .putting _ _ | .acking _ _ _ => false

/-- Inside of a call-out nothing is done but to return. -/
def EndpointRun.Undisturbed (state : EndpointRun) (step : EndpointStep) : Prop :=
  state.frames = [] ∨ ∃ result, step = .resume result

instance (state : EndpointRun) : ∀ step, Decidable (state.Undisturbed step)
  | .resume result => isTrue (.inr ⟨result, rfl⟩)
  | .sendRequest _ _ | .cancelRequest _ | .putData _ | .timerFired _ | .canPut | .setDataSink _ =>
      decidable_of_iff (state.frames = []) ⟨.inl, fun undisturbed => undisturbed.elim id (fun ⟨_, isResume⟩ => nomatch isResume)⟩

/-! ## The invariant -/

/-- What a context says about its request. -/
structure Fits (history : List EndpointEvent) (context : CoapRequestContext) : Prop where
  sends : history.count (.sent context.handle) ≤
    context.resendCount.toNat + if context.state = .readyToSend then 0 else 1
  counts : context.resendCount ≤ context.maxResendCount
  max : ∀ max, .created context.handle max ∈ history → context.maxResendCount.toNat = max % 256
  cancelled : context.state = .cancelled → Ended context.handle (callbacks history context.handle)
  acked : context.state = .acked → context.resendTimer = none

/-- A context of a request that goes on. -/
structure GoesOn (history : List EndpointEvent) (context : CoapRequestContext) : Prop where
  waits : context.state = .readyToSend ∨ context.state = .waitingForAck →
    callbacks history context.handle = []
  acked : context.state = .acked → callbacks history context.handle = [.ack context.handle]

/-- The life of one request, when at most one call is waiting. -/
structure Life (state : EndpointRun) (handle : Nat) : Prop where
  orderly : Orderly handle (callbacks state.history handle)
  bounded : ∀ max, .created handle max ∈ state.history → state.history.count (.sent handle) ≤ 1 + max % 256
  fits : ∀ context, state.endpoint.find handle = some context → Fits state.history context
  goesOn : ∀ context, state.endpoint.find handle = some context →
    (∀ frame ∈ state.frames, frame.finishes handle = false) → GoesOn state.history context
  finishes : ∀ frame ∈ state.frames, frame.finishes handle = true → Ended handle (callbacks state.history handle)
  putting : ∀ walk, .putting handle walk ∈ state.frames →
    ∃ context, state.endpoint.find handle = some context ∧ context.state = .readyToSend
  acking : ∀ reply wasLocked, .acking handle reply wasLocked ∈ state.frames →
    ∃ context, state.endpoint.find handle = some context ∧ context.state = .acked
  fresh : state.endpoint.tokenCounter < handle → ∀ event ∈ state.history, event ≠ .sent handle ∧
    (∀ max, event ≠ .created handle max) ∧ event.tellsListener handle = false

/-- An endpoint between two steps, when no call-out is disturbed. -/
structure Lives (state : EndpointRun) : Prop where
  sound : Sound state
  alone : state.frames.length ≤ 1
  unique : (state.endpoint.requests.map (·.handle)).Nodup
  clean : state.endpoint.locked = false → ∀ context ∈ state.endpoint.requests, context.state ≠ .cancelled
  life : ∀ handle, Life state handle

/-! ## Contexts by their handles -/

namespace CoapEndpoint

theorem find_eq {endpoint : CoapEndpoint} {handle : Nat} {context : CoapRequestContext}
    (found : endpoint.find handle = some context) : context ∈ endpoint.requests ∧ context.handle = handle :=
  ⟨List.mem_of_find?_eq_some found, by simpa using List.find?_some found⟩

/-- With unique handles a context is found by its handle. -/
theorem find_of_mem {endpoint : CoapEndpoint} (unique : (endpoint.requests.map (·.handle)).Nodup)
    {context : CoapRequestContext} (member : context ∈ endpoint.requests) : endpoint.find context.handle = some context := by
  cases found : endpoint.find context.handle with
  | none =>
      have absent := List.find?_eq_none.mp found context member
      simp at absent
  | some other =>
      obtain ⟨isMember, same⟩ := find_eq found
      rw [List.inj_on_of_nodup_map unique isMember member same]

theorem find_modify {endpoint : CoapEndpoint} {handle : Nat} {f : CoapRequestContext → CoapRequestContext}
    (keeps : ∀ context, (f context).handle = context.handle) (handle' : Nat) :
    (endpoint.modify handle f).find handle' =
      (endpoint.find handle').map (fun context => if context.handle = handle then f context else context) := by
  unfold find modify
  rw [List.find?_map]
  congr 2
  funext context
  simp only [Function.comp]
  split
  · rw [keeps]
  · rfl

theorem find_modify_ne {endpoint : CoapEndpoint} {handle handle' : Nat} {f : CoapRequestContext → CoapRequestContext}
    (keeps : ∀ context, (f context).handle = context.handle) (other : handle' ≠ handle) :
    (endpoint.modify handle f).find handle' = endpoint.find handle' := by
  rw [find_modify keeps]
  cases found : endpoint.find handle' with
  | none => rfl
  | some context =>
      have same := (find_eq found).2
      simp [same, other]

theorem find_modify_self {endpoint : CoapEndpoint} {handle : Nat} {f : CoapRequestContext → CoapRequestContext}
    (keeps : ∀ context, (f context).handle = context.handle) :
    (endpoint.modify handle f).find handle = (endpoint.find handle).map f := by
  rw [find_modify keeps]
  cases found : endpoint.find handle with
  | none => rfl
  | some context => simp [(find_eq found).2]

theorem find_setState (endpoint : CoapEndpoint) (handle : Nat) (state : RequestState) :
    (endpoint.setState handle state).find handle = (endpoint.find handle).map ({ · with state := state }) :=
  find_modify_self (fun _ => rfl)

theorem unique_modify {endpoint : CoapEndpoint} {handle : Nat} {f : CoapRequestContext → CoapRequestContext}
    (keeps : ∀ context, (f context).handle = context.handle) (unique : (endpoint.requests.map (·.handle)).Nodup) :
    ((endpoint.modify handle f).requests.map (·.handle)).Nodup := by
  have same : (endpoint.modify handle f).requests.map (·.handle) = endpoint.requests.map (·.handle) := by
    unfold modify
    rw [List.map_map]
    apply List.map_congr_left
    intro context _
    simp only [Function.comp]
    split
    · rw [keeps]
    · rfl
  rw [same]
  exact unique

theorem unique_filter {requests : List CoapRequestContext} (p : CoapRequestContext → Bool)
    (unique : (requests.map (·.handle)).Nodup) : ((requests.filter p).map (·.handle)).Nodup :=
  (List.filter_sublist.map _).nodup unique

/-- A context that is found among some of the requests is found among all of them. -/
theorem find_filter {endpoint : CoapEndpoint} (unique : (endpoint.requests.map (·.handle)).Nodup)
    (p : CoapRequestContext → Bool) {handle : Nat} {context : CoapRequestContext}
    (found : { endpoint with requests := endpoint.requests.filter p }.find handle = some context) :
    endpoint.find handle = some context ∧ p context = true := by
  obtain ⟨member, same⟩ := find_eq found
  obtain ⟨isMember, holds⟩ := List.mem_filter.mp member
  exact ⟨same ▸ find_of_mem unique isMember, holds⟩

end CoapEndpoint

/-! ## Lives side by side -/

def EndpointEvent.handle : EndpointEvent → Nat
  | .created handle _ | .put handle | .sent handle | .ack handle | .response handle | .error handle _ | .cancel handle =>
      handle

def Frame.handle : Frame → Nat
  | .putting handle _ | .failing handle _ | .acking handle _ _ | .responding handle _ | .timingOut handle => handle

theorem callbacks_concat (history : List EndpointEvent) (event : EndpointEvent) (handle : Nat) :
    callbacks (history ++ [event]) handle =
      callbacks history handle ++ if event.tellsListener handle then [event] else [] := by
  unfold callbacks
  rw [List.filter_append]
  congr 1
  rw [List.filter_cons]
  rfl

theorem count_sent_concat (history : List EndpointEvent) {event : EndpointEvent} {handle : Nat}
    (notSent : event ≠ .sent handle) : (history ++ [event]).count (.sent handle) = history.count (.sent handle) := by
  rw [List.count_append, List.count_singleton]
  simp [notSent]

/-- The event is none of those that the life of a request counts. -/
structure EndpointEvent.Neutral (handle : Nat) (event : EndpointEvent) : Prop where
  notTold : event.tellsListener handle = false
  notSent : event ≠ .sent handle
  notCreated : ∀ max, event ≠ .created handle max

theorem EndpointEvent.neutral_of_ne {handle : Nat} {event : EndpointEvent} (other : event.handle ≠ handle) :
    event.Neutral handle := by
  cases event <;> constructor <;> simp_all [tellsListener, EndpointEvent.handle]

theorem created_mem_concat {history : List EndpointEvent} {event : EndpointEvent} {handle max : Nat}
    (neutral : event.Neutral handle) (member : .created handle max ∈ history ++ [event]) :
    .created handle max ∈ history := by
  rcases List.mem_append.mp member with old | new
  · exact old
  · exact absurd (List.mem_singleton.mp new).symm (neutral.notCreated max)

theorem callbacks_neutral {history : List EndpointEvent} {event : EndpointEvent} {handle : Nat}
    (neutral : event.Neutral handle) : callbacks (history ++ [event]) handle = callbacks history handle := by
  rw [callbacks_concat, neutral.notTold]
  simp

theorem Fits.log {history : List EndpointEvent} {context : CoapRequestContext} (fits : Fits history context)
    {event : EndpointEvent} (neutral : event.Neutral context.handle) : Fits (history ++ [event]) context := by
  refine ⟨?_, fits.counts, ?_, ?_, fits.acked⟩
  · rw [count_sent_concat history neutral.notSent]
    exact fits.sends
  · intro max member
    exact fits.max max (created_mem_concat neutral member)
  · rw [callbacks_neutral neutral]
    exact fits.cancelled

theorem GoesOn.log {history : List EndpointEvent} {context : CoapRequestContext} (goesOn : GoesOn history context)
    {event : EndpointEvent} (neutral : event.Neutral context.handle) : GoesOn (history ++ [event]) context := by
  refine ⟨?_, ?_⟩
  · rw [callbacks_neutral neutral]
    exact goesOn.waits
  · rw [callbacks_neutral neutral]
    exact goesOn.acked

namespace Life

variable {state : EndpointRun} {handle : Nat}

theorem log (life : Life state handle) {event : EndpointEvent} (neutral : event.Neutral handle) :
    Life (state.log event) handle := by
  have sameCalls := @callbacks_neutral state.history event handle neutral
  refine ⟨?_, ?_, ?_, ?_, ?_, life.putting, life.acking, ?_⟩
  · rw [EndpointRun.log, sameCalls]
    exact life.orderly
  · intro max member
    rw [EndpointRun.log, count_sent_concat _ neutral.notSent]
    exact life.bounded max (created_mem_concat neutral member)
  · intro context found
    have isHandle := (CoapEndpoint.find_eq found).2
    exact (life.fits context found).log (isHandle.symm ▸ neutral)
  · intro context found notFinishing
    have isHandle := (CoapEndpoint.find_eq found).2
    exact (life.goesOn context found notFinishing).log (isHandle.symm ▸ neutral)
  · rw [EndpointRun.log, sameCalls]
    exact life.finishes
  · intro fresh event' member
    rcases List.mem_append.mp member with old | new
    · exact life.fresh fresh event' old
    · rw [List.mem_singleton.mp new]
      exact ⟨neutral.notSent, neutral.notCreated, neutral.notTold⟩

/-- The other requests may change. -/
theorem withEndpoint (life : Life state handle) {endpoint : CoapEndpoint}
    (found : endpoint.find handle = state.endpoint.find handle)
    (counter : state.endpoint.tokenCounter ≤ endpoint.tokenCounter) : Life { state with endpoint := endpoint } handle := by
  refine ⟨life.orderly, life.bounded, ?_, ?_, life.finishes, ?_, ?_, ?_⟩
  · rw [found]
    exact life.fits
  · rw [found]
    exact life.goesOn
  · rw [found]
    exact life.putting
  · rw [found]
    exact life.acking
  · intro fresh
    exact life.fresh (Nat.lt_of_le_of_lt counter fresh)

theorem push_other (life : Life state handle) {frame : Frame} (other : frame.handle ≠ handle) :
    Life (state.push frame) handle := by
  have notFinishing : frame.finishes handle = false := by
    cases frame <;> simp_all [Frame.finishes, Frame.handle]
  refine ⟨life.orderly, life.bounded, life.fits, ?_, ?_, ?_, ?_, life.fresh⟩
  · intro context found notFinishing'
    exact life.goesOn context found (fun frame' member => notFinishing' frame' (List.mem_cons_of_mem _ member))
  · intro frame' member isFinishing
    rcases List.mem_cons.mp member with rfl | below
    · rw [notFinishing] at isFinishing
      exact nomatch isFinishing
    · exact life.finishes frame' below isFinishing
  · intro walk member
    rcases List.mem_cons.mp member with rfl | below
    · exact absurd rfl other
    · exact life.putting walk below
  · intro reply wasLocked member
    rcases List.mem_cons.mp member with rfl | below
    · exact absurd rfl other
    · exact life.acking reply wasLocked below

/-- A call-out returns that has not told the listener how the request ended. -/
theorem pop (life : Life state handle) {frame : Frame} (isTop : state.frames = [frame])
    (notFinishing : frame.finishes handle = false) : Life { state with frames := [] } handle := by
  refine ⟨life.orderly, life.bounded, life.fits, ?_, fun _ member => (nomatch member), fun _ member => (nomatch member),
    fun _ _ member => (nomatch member), life.fresh⟩
  intro context found _
  apply life.goesOn context found
  intro frame' member
  rw [isTop] at member
  rw [List.mem_singleton.mp member]
  exact notFinishing

/-- The context of the request is changed, with no call waiting. -/
theorem modify (life : Life state handle) (alone : state.frames = []) {f : CoapRequestContext → CoapRequestContext}
    (keeps : ∀ context, (f context).handle = context.handle)
    (fits : ∀ context, state.endpoint.find handle = some context → Fits state.history (f context))
    (goesOn : ∀ context, state.endpoint.find handle = some context → GoesOn state.history (f context)) :
    Life { state with endpoint := state.endpoint.modify handle f } handle := by
  have noFrame : ∀ frame, frame ∉ state.frames := by simp [alone]
  refine ⟨life.orderly, life.bounded, ?_, ?_, life.finishes, fun _ member => absurd member (noFrame _),
    fun _ _ member => absurd member (noFrame _), life.fresh⟩
  · intro context found
    rw [CoapEndpoint.find_modify_self keeps] at found
    obtain ⟨original, isOriginal, rfl⟩ := Option.map_eq_some_iff.mp found
    exact fits original isOriginal
  · intro context found _
    rw [CoapEndpoint.find_modify_self keeps] at found
    obtain ⟨original, isOriginal, rfl⟩ := Option.map_eq_some_iff.mp found
    exact goesOn original isOriginal

/-- The listener is told how the request ended. -/
theorem finish (life : Life state handle) (alone : state.frames = []) (known : handle ≤ state.endpoint.tokenCounter)
    {event : EndpointEvent} {frame : Frame} (isFinishing : frame.finishes handle = true)
    (notSent : event ≠ .sent handle) (notCreated : ∀ max, event ≠ .created handle max)
    (ended : Ended handle (callbacks (state.history ++ [event]) handle)) :
    Life ((state.log event).push frame) handle := by
  have isFrame : ∀ frame', frame' ∈ ((state.log event).push frame).frames → frame' = frame := by
    intro frame' member
    simpa [EndpointRun.push, EndpointRun.log, alone] using member
  have created : ∀ max, .created handle max ∈ state.history ++ [event] → .created handle max ∈ state.history := by
    intro max member
    rcases List.mem_append.mp member with old | new
    · exact old
    · exact absurd (List.mem_singleton.mp new).symm (notCreated max)
  refine ⟨.inr (.inr ended), ?_, ?_, ?_, fun _ _ _ => ended, ?_, ?_, fun fresh => absurd known (Nat.not_le.mpr fresh)⟩
  · intro max member
    simp only [EndpointRun.push, EndpointRun.log, count_sent_concat _ notSent]
    exact life.bounded max (created max member)
  · intro context found
    have isHandle := (CoapEndpoint.find_eq found).2
    have fits := life.fits context found
    refine ⟨?_, fits.counts, ?_, ?_, fits.acked⟩
    · simp only [EndpointRun.push, EndpointRun.log, isHandle, count_sent_concat _ notSent]
      exact isHandle ▸ fits.sends
    · intro max member
      rw [isHandle] at member
      exact fits.max max (isHandle.symm ▸ created max member)
    · intro _
      rw [isHandle]
      exact ended
  · intro context found notFinishing
    have absurd' := notFinishing frame List.mem_cons_self
    rw [isFinishing] at absurd'
    cases absurd'
  · intro walk member
    rw [← isFrame _ member] at isFinishing
    cases isFinishing
  · intro reply wasLocked member
    rw [← isFrame _ member] at isFinishing
    cases isFinishing

end Life

end GoldenGate.Coap
