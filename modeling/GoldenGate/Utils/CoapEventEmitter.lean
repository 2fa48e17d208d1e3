import GoldenGate.Coap.Block
import GoldenGate.Lib.Memory
import GoldenGate.Lib.Runs

/-! # The CoAP event emitter

The embedding of `gg_coap_event_emitter.c`: a table of events that are sent in one request, as
soon as the window of one of them ends. What the endpoint makes of a request is an input, and so
is the time of the scheduler. Of the timer only whether it is scheduled matters here.
-/

namespace GoldenGate

open Memory Coap

/-- `GG_CoapEventEmitterEntry`. -/
structure EventEntry where
  eventType : UInt32
  windowEnd : UInt32
  inFlight : Bool
  deriving Repr, DecidableEq

def eventTypeNone : UInt32 := 0
def noPendingEvent : UInt32 := 0xFFFFFFFF

/-- `GG_CoapEventEmitter`. -/
structure CoapEventEmitter where
  requestHandle : Nat
  requestTimestamp : UInt32
  timerScheduled : Bool
  retryDelay : UInt32
  minRequestAge : UInt32
  entries : List EventEntry
  deriving Repr, DecidableEq

/-- A request that is pending in the endpoint, and the types of the events that it carries. -/
structure EmitterRequest where
  handle : Nat
  events : List UInt32
  deriving Repr, DecidableEq

/-- What the endpoint makes of a request: it is pending; or an error is returned, before or after
    the handle was stored; or the failure is reported to the listener, which is not a timeout, and
    success is returned. -/
inductive EmitResult where
  | accepted
  | refused
  | failed
  | reported
  deriving Repr, DecidableEq

/-- How a request is sent: the endpoint returns without a response; or a response is delivered from
    inside `GG_DataSink_PutData`, which then succeeds. -/
inductive EmitOutcome where
  | returns (result : EmitResult)
  | answered (code : UInt8)
  deriving Repr, DecidableEq

instance : Coe EmitResult EmitOutcome := ⟨.returns⟩

/-- An emitter, the requests that its endpoint has for it, and the last handle it was given. -/
structure EmitterRun where
  emitter : CoapEventEmitter
  pending : List EmitterRequest
  handles : Nat
  deriving Repr, DecidableEq

/-- Current events are marked as 'in flight'. -/
def EventEntry.marked (self : EventEntry) : EventEntry :=
  if self.eventType ≠ eventTypeNone then { self with inFlight := true } else self

namespace EmitterRun

/-- `GG_CoapEndpoint_CancelRequest`. -/
def cancelRequest (self : EmitterRun) (handle : Nat) : EmitterRun :=
  { self with pending := self.pending.filter (·.handle ≠ handle) }

/-- The events of the payload that `GG_CoapEventEmitter_GetRequestData` writes. -/
def requestEvents (entries : List EventEntry) : List UInt32 := (entries.filter (·.inFlight)).map (·.eventType)

/-- `GG_CoapEventEmitter_OnError` for errors that are not timeouts: wait before retrying. -/
def retryLater (self : EmitterRun) : EmitterRun :=
  { self with emitter := { self.emitter with requestHandle := 0, requestTimestamp := 0, timerScheduled := true } }

/-- The request was sent, and the timer is not needed anymore. -/
def sent (self : EmitterRun) (now : UInt32) : EmitterRun :=
  { self with emitter := { self.emitter with requestTimestamp := now, timerScheduled := false } }

/-- `GG_CoapEventEmitter_ClearEmittedEvents`. -/
def clearEmittedEvents (entries : List EventEntry) : List EventEntry :=
  entries.map fun entry => if entry.inFlight then ⟨eventTypeNone, 0, false⟩ else entry

/-- `GG_CoapEventEmitter_OnResponse`, while the request is sent: all events are in flight, so that
    the update after they were cleared finds none (`answeredInside_eq`). -/
def answeredInside (self : EmitterRun) (code : UInt8) : EmitterRun :=
  let self := { self with emitter := { self.emitter with requestHandle := 0, requestTimestamp := 0 } }
  if code = codeChanged ∨ messageCodeClass code = codeClassClientErrorResponse then
    { self with emitter := { self.emitter with entries := clearEmittedEvents self.emitter.entries } }
  else { self with emitter := { self.emitter with timerScheduled := true } }

/-- `GG_CoapEventEmitter_Emit`. A request that was answered from inside is waited for again. -/
def emit (self : EmitterRun) (now : UInt32) (outcome : EmitOutcome) : EmitterRun :=
  let entries := self.emitter.entries.map EventEntry.marked
  let self := { self with emitter := { self.emitter with entries := entries }, handles := self.handles + 1 }
  let withHandle := { self with emitter := { self.emitter with requestHandle := self.handles } }
  let request : EmitterRequest := ⟨self.handles, requestEvents entries⟩
  match outcome with
  | .answered code => { withHandle.answeredInside code with pending := self.pending ++ [request] }.sent now
  | .returns .accepted => { withHandle with pending := self.pending ++ [request] }.sent now
  | .returns .refused => { self with emitter := { self.emitter with timerScheduled := true } }
  | .returns .failed => { withHandle with emitter := { withHandle.emitter with timerScheduled := true } }
  | .returns .reported => withHandle.retryLater.sent now

/-- The body of the loop of `GG_CoapEventEmitter_GetNextWindowEnd`. -/
def earlierWindowEnd (result : UInt32) (entry : EventEntry) : UInt32 :=
  if entry.eventType = eventTypeNone then result
  else if entry.windowEnd < result then entry.windowEnd
  else result

/-- `GG_CoapEventEmitter_GetNextWindowEnd`. -/
def getNextWindowEnd (entries : List EventEntry) : UInt32 := entries.foldl earlierWindowEnd noPendingEvent

/-- A request in flight that is too old is cancelled. -/
def cancelOldRequest (self : EmitterRun) (now : UInt32) : EmitterRun :=
  if self.emitter.requestHandle ≠ 0 ∧ now > self.emitter.requestTimestamp ∧
      now - self.emitter.requestTimestamp > self.emitter.minRequestAge then
    let self := self.cancelRequest self.emitter.requestHandle
    { self with emitter := { self.emitter with requestHandle := 0, requestTimestamp := 0 } }
  else self

/-- `GG_CoapEventEmitter_Update`. -/
def update (self : EmitterRun) (now : UInt32) (outcome : EmitOutcome) : EmitterRun :=
  let self := self.cancelOldRequest now
  if self.emitter.requestHandle ≠ 0 then self
  else
    let nextWindowEnd := getNextWindowEnd self.emitter.entries
    if nextWindowEnd ≠ noPendingEvent then
      if nextWindowEnd ≤ now then self.emit now outcome
      else { self with emitter := { self.emitter with timerScheduled := true } }
    else self

/-- `GG_CoapEventEmitter_OnTimerFired`. -/
def onTimerFired (self : EmitterRun) (now : UInt32) (outcome : EmitOutcome) : EmitterRun := self.update now outcome

/-- `GG_CoapEventEmitter_OnError`. After a timeout, we can retry immediately. -/
def onError (self : EmitterRun) (error : Error) (now : UInt32) (outcome : EmitOutcome) : EmitterRun :=
  if error = .timeout then
    { self with emitter := { self.emitter with requestHandle := 0, requestTimestamp := 0 } }.update now outcome
  else self.retryLater

/-- `GG_CoapEventEmitter_OnResponse`. -/
def onResponse (self : EmitterRun) (code : UInt8) (now : UInt32) (outcome : EmitOutcome) : EmitterRun :=
  let self := { self with emitter := { self.emitter with requestHandle := 0, requestTimestamp := 0 } }
  if code = codeChanged ∨ messageCodeClass code = codeClassClientErrorResponse then
    { self with emitter := { self.emitter with entries := clearEmittedEvents self.emitter.entries } }.update now outcome
  else { self with emitter := { self.emitter with timerScheduled := true } }

/-- Where `GG_CoapEventEmitter_SetEvent` stores an event: where it is, or else in the first free
    spot. -/
def insertionPoint (entries : List EventEntry) (eventType : UInt32) : Option Nat :=
  match entries.findIdx? (·.eventType = eventType) with
  | some index => some index
  | none => entries.findIdx? (·.eventType = eventTypeNone)

/-- `GG_CoapEventEmitter_SetEvent`. -/
def setEvent (self : EmitterRun) (eventType maxLatency now : UInt32) (outcome : EmitOutcome) :
    Access (EmitterRun × Except Error Unit) := do
  assert (eventType ≠ 0)
  let windowEnd := now + maxLatency
  match insertionPoint self.emitter.entries eventType with
  | none => return (self, .error .outOfResources)
  | some index =>
      let entries := self.emitter.entries.set index ⟨eventType, windowEnd, false⟩
      return ({ self with emitter := { self.emitter with entries := entries } }.update now outcome, .ok ())

/-- `GG_CoapEventEmitter_UnsetEvent`. -/
def unsetEvent (self : EmitterRun) (eventType now : UInt32) (outcome : EmitOutcome) : EmitterRun × Except Error Unit :=
  match self.emitter.entries.findIdx? (·.eventType = eventType) with
  | none => (self, .error .noSuchItem)
  | some index =>
      let entries := self.emitter.entries.set index ⟨eventTypeNone, 0, false⟩
      ({ self with emitter := { self.emitter with entries := entries } }.update now outcome, .ok ())

/-- `GG_CoapEventEmitter_Create`. -/
def create (maxEvents : Nat) (retryDelay minRequestAge : UInt32) : EmitterRun where
  emitter := {
    requestHandle := 0
    requestTimestamp := 0
    timerScheduled := false
    retryDelay := if retryDelay ≠ 0 then retryDelay else 30000
    minRequestAge := if minRequestAge ≠ 0 then minRequestAge else 5000
    entries := List.replicate maxEvents ⟨0, 0, false⟩ }
  pending := []
  handles := 0

end EmitterRun

namespace EmitterRun

/-- All the events are in flight when a request is answered while it is sent. -/
theorem answeredInside_eq (state : EmitterRun) {entries : List EventEntry}
    (marked : state.emitter.entries = entries.map EventEntry.marked) (code : UInt8) (now : UInt32)
    (outcome : EmitOutcome) : state.answeredInside code = state.onResponse code now outcome := by
  have free : ∀ entry ∈ clearEmittedEvents (entries.map EventEntry.marked), entry.eventType = eventTypeNone := by
    intro entry member
    obtain ⟨other, isMarked, rfl⟩ := List.mem_map.mp member
    obtain ⟨original, -, rfl⟩ := List.mem_map.mp isMarked
    unfold EventEntry.marked
    split
    · rfl
    · rename_i notSet
      split
      · rfl
      · exact not_not.mp notSet
  have noWindow : getNextWindowEnd (clearEmittedEvents (entries.map EventEntry.marked)) = noPendingEvent := by
    refine List.foldlRecOn (motive := (· = noPendingEvent)) _ _ rfl ?_
    intro result isNone entry member
    rw [earlierWindowEnd, if_pos (free entry member), isNone]
  unfold answeredInside onResponse update cancelOldRequest
  simp [marked, noWindow]

end EmitterRun

/-! ## Runs -/

/-- What happens to an emitter. -/
inductive EmitterCall where
  | setEvent (eventType maxLatency : UInt32)
  | unsetEvent (eventType : UInt32)
  | timerFired
  | response (handle : Nat) (code : UInt8)
  | error (handle : Nat) (error : Error)
  deriving Repr, DecidableEq

/-- The time of the scheduler is told, and how a request is sent if there is one. -/
structure SendingStep where
  call : EmitterCall
  now : UInt32
  outcome : EmitOutcome
  deriving Repr, DecidableEq

/-- A step in which no response is delivered while a request is sent. -/
structure EmitterStep where
  call : EmitterCall
  now : UInt32
  result : EmitResult
  deriving Repr, DecidableEq

abbrev EmitterStep.sending (self : EmitterStep) : SendingStep := ⟨self.call, self.now, self.result⟩

namespace EmitterRun

/-- The timer fires when it is scheduled; responses and errors come for pending requests, which are
    done when the listener has been told. -/
def stepSending (self : EmitterRun) (step : SendingStep) : Access EmitterRun :=
  match step.call with
  | .setEvent eventType maxLatency => do
      let (self, _) ← self.setEvent eventType maxLatency step.now step.outcome
      return self
  | .unsetEvent eventType => return (self.unsetEvent eventType step.now step.outcome).1
  | .timerFired =>
      if self.emitter.timerScheduled then
        return { self with emitter := { self.emitter with timerScheduled := false } }.onTimerFired step.now step.outcome
      else return self
  | .response handle code =>
      if self.pending.any (·.handle = handle) then
        return (self.onResponse code step.now step.outcome).cancelRequest handle
      else return self
  | .error handle error =>
      if self.pending.any (·.handle = handle) then
        return (self.onError error step.now step.outcome).cancelRequest handle
      else return self

def runSending (self : EmitterRun) (steps : List SendingStep) : Access EmitterRun := steps.foldlM stepSending self

def step (self : EmitterRun) (step : EmitterStep) : Access EmitterRun := self.stepSending step.sending

def run (self : EmitterRun) (steps : List EmitterStep) : Access EmitterRun := steps.foldlM step self

/-- Some event is set. -/
def HasEvent (entries : List EventEntry) : Prop := ∃ entry ∈ entries, entry.eventType ≠ eventTypeNone

instance (entries : List EventEntry) : Decidable (HasEvent entries) :=
  inferInstanceAs (Decidable (∃ entry ∈ entries, entry.eventType ≠ eventTypeNone))

def HasRequest (self : EmitterRun) : Prop :=
  self.emitter.requestHandle ≠ 0 ∧ ∃ request ∈ self.pending, request.handle = self.emitter.requestHandle

/-- While an event is set, the handle names a request that is pending, or the timer is scheduled. -/
def Remembers (self : EmitterRun) : Prop :=
  HasEvent self.emitter.entries → self.HasRequest ∨ self.emitter.timerScheduled = true

instance (self : EmitterRun) : Decidable self.HasRequest :=
  inferInstanceAs (Decidable (_ ∧ _))

instance (self : EmitterRun) : Decidable self.Remembers :=
  inferInstanceAs (Decidable (_ → _))

/-! ## When events are remembered -/

/-- A window does not end at the time that stands for no event; no request fails after its handle was
    stored, and none is answered while it is sent. -/
def MayTake (step : SendingStep) : Prop :=
  (step.outcome = .returns .accepted ∨ step.outcome = .returns .refused) ∧
    match step.call with
    | .setEvent _ maxLatency => step.now + maxLatency ≠ noPendingEvent
    | _ => True

/-- What holds between two calls. -/
structure Valid (state : EmitterRun) : Prop where
  windows : ∀ entry ∈ state.emitter.entries, entry.eventType ≠ eventTypeNone → entry.windowEnd ≠ noPendingEvent
  request : state.emitter.requestHandle ≠ 0 → state.HasRequest
  handles : ∀ request ∈ state.pending, 0 < request.handle ∧ request.handle ≤ state.handles
  remembers : state.Remembers

theorem earlierWindowEnd_le (result : UInt32) (entry : EventEntry) : earlierWindowEnd result entry ≤ result := by
  unfold earlierWindowEnd
  split
  · exact UInt32.le_refl result
  · split
    · rename_i less
      exact UInt32.le_of_lt less
    · exact UInt32.le_refl result

theorem foldl_earlierWindowEnd_le (entries : List EventEntry) (result : UInt32) :
    entries.foldl earlierWindowEnd result ≤ result := by
  induction entries generalizing result with
  | nil => exact UInt32.le_refl result
  | cons entry entries ih => exact UInt32.le_trans (ih _) (earlierWindowEnd_le result entry)

/-- No window ends before the next window end. -/
theorem getNextWindowEnd_le {entries : List EventEntry} {entry : EventEntry} (member : entry ∈ entries)
    (isSet : entry.eventType ≠ eventTypeNone) : getNextWindowEnd entries ≤ entry.windowEnd := by
  unfold getNextWindowEnd
  generalize noPendingEvent = result
  induction entries generalizing result with
  | nil => exact nomatch member
  | cons other entries ih =>
      rw [List.foldl_cons]
      rcases List.mem_cons.mp member with rfl | member
      · apply UInt32.le_trans (foldl_earlierWindowEnd_le _ _)
        rw [earlierWindowEnd, if_neg isSet]
        split
        · exact UInt32.le_refl _
        · rename_i notLess
          exact UInt32.not_lt.mp notLess
      · exact ih member _

/-- What is asked of a state in which an update is made: of the invariant, all but that events are
    remembered. -/
structure Updatable (state : EmitterRun) : Prop where
  windows : ∀ entry ∈ state.emitter.entries, entry.eventType ≠ eventTypeNone → entry.windowEnd ≠ noPendingEvent
  request : state.emitter.requestHandle ≠ 0 → state.HasRequest
  handles : ∀ request ∈ state.pending, 0 < request.handle ∧ request.handle ≤ state.handles

theorem Valid.updatable {state : EmitterRun} (valid : state.Valid) : state.Updatable :=
  ⟨valid.windows, valid.request, valid.handles⟩

theorem Updatable.cancelOldRequest {state : EmitterRun} (updatable : state.Updatable) (now : UInt32) :
    (state.cancelOldRequest now).Updatable := by
  unfold EmitterRun.cancelOldRequest
  split
  · refine ⟨updatable.windows, fun notZero => absurd rfl notZero, ?_⟩
    intro request member
    exact updatable.handles request (List.mem_filter.mp member).1
  · exact updatable

/-- With the timer scheduled all events are remembered. -/
theorem Updatable.scheduled {state : EmitterRun} (updatable : state.Updatable) :
    Valid { state with emitter := { state.emitter with timerScheduled := true } } :=
  ⟨updatable.windows, updatable.request, updatable.handles, fun _ => .inr rfl⟩

theorem emit_valid {state : EmitterRun} (updatable : state.Updatable) (none : state.emitter.requestHandle = 0)
    {outcome : EmitOutcome} (returns : outcome = .returns .accepted ∨ outcome = .returns .refused) (now : UInt32) :
    (state.emit now outcome).Valid := by
  have windows : ∀ entry ∈ state.emitter.entries.map EventEntry.marked, entry.eventType ≠ eventTypeNone →
      entry.windowEnd ≠ noPendingEvent := by
    intro entry member isSet
    obtain ⟨original, isEntry, rfl⟩ := List.mem_map.mp member
    unfold EventEntry.marked at isSet ⊢
    split
    · rename_i wasSet
      exact updatable.windows original isEntry wasSet
    · rename_i notSet
      rw [if_neg notSet] at isSet
      exact absurd isSet notSet
  rcases returns with rfl | rfl
  · have hasRequest : (state.emit now (.returns .accepted)).HasRequest :=
      ⟨Nat.succ_ne_zero _, _, List.mem_append_right _ List.mem_cons_self, rfl⟩
    refine ⟨windows, fun _ => hasRequest, ?_, fun _ => .inl hasRequest⟩
    intro request member
    rcases List.mem_append.mp member with earlier | last
    · obtain ⟨pos, le⟩ := updatable.handles request earlier
      exact ⟨pos, Nat.le_succ_of_le le⟩
    · rw [List.mem_singleton.mp last]
      exact ⟨Nat.succ_pos _, Nat.le_refl _⟩
  · refine ⟨windows, fun notZero => absurd none notZero, ?_, fun _ => .inr rfl⟩
    intro request member
    obtain ⟨pos, le⟩ := updatable.handles request member
    exact ⟨pos, Nat.le_succ_of_le le⟩

/-- An update makes sure that events are remembered. -/
theorem update_valid {state : EmitterRun} (updatable : state.Updatable) {outcome : EmitOutcome}
    (returns : outcome = .returns .accepted ∨ outcome = .returns .refused) (now : UInt32) : (state.update now outcome).Valid := by
  have updatable' := updatable.cancelOldRequest now
  unfold EmitterRun.update
  generalize state.cancelOldRequest now = state at updatable'
  simp only
  split
  · rename_i notZero
    exact ⟨updatable'.windows, updatable'.request, updatable'.handles, fun _ => .inl (updatable'.request notZero)⟩
  · rename_i zero
    have none : state.emitter.requestHandle = 0 := by simpa using zero
    split
    · split
      · exact emit_valid updatable' none returns now
      · exact updatable'.scheduled
    · rename_i noWindow
      refine ⟨updatable'.windows, updatable'.request, updatable'.handles, ?_⟩
      rintro ⟨entry, member, isSet⟩
      have le := getNextWindowEnd_le member isSet
      rw [not_not.mp noWindow] at le
      have isLast : entry.windowEnd = noPendingEvent := by
        have small := entry.windowEnd.toNat_lt
        rw [UInt32.le_iff_toNat_le] at le
        rw [← UInt32.toNat_inj]
        change 2 ^ 32 - 1 ≤ _ at le
        change _ = 2 ^ 32 - 1
        omega
      exact absurd isLast (updatable'.windows entry member isSet)

/-- A request is only replaced by a newer one. -/
theorem update_handle {state : EmitterRun} (none : state.emitter.requestHandle = 0) {outcome : EmitOutcome}
    (returns : outcome = .returns .accepted ∨ outcome = .returns .refused) (now : UInt32) :
    (state.update now outcome).emitter.requestHandle = 0 ∨
      (state.update now outcome).emitter.requestHandle = state.handles + 1 := by
  have same : state.cancelOldRequest now = state := by
    rw [EmitterRun.cancelOldRequest, if_neg (by simp [none])]
  unfold EmitterRun.update
  simp only [same, none, ne_eq, not_true_eq_false, if_false]
  split
  · split
    · rcases returns with rfl | rfl
      · exact .inr rfl
      · exact .inl none
    · exact .inl rfl
  · exact .inl none

/-- A request that is done is not the one that the handle names. -/
theorem Valid.cancelRequest {state : EmitterRun} (valid : state.Valid) {handle : Nat}
    (other : state.emitter.requestHandle ≠ handle) : (state.cancelRequest handle).Valid := by
  have kept : state.HasRequest → (state.cancelRequest handle).HasRequest := by
    rintro ⟨notZero, request, member, same⟩
    exact ⟨notZero, request, List.mem_filter.mpr ⟨member, by simpa [same] using other⟩, same⟩
  refine ⟨valid.windows, fun notZero => kept (valid.request notZero), ?_, ?_⟩
  · intro request member
    exact valid.handles request (List.mem_filter.mp member).1
  · intro hasEvent
    exact (valid.remembers hasEvent).imp_left kept

/-- The emitter forgets its request when the listener is told how it ended. -/
theorem Updatable.requestDone {state : EmitterRun} (updatable : state.Updatable) :
    Updatable { state with emitter := { state.emitter with requestHandle := 0, requestTimestamp := 0 } } :=
  ⟨updatable.windows, fun notZero => absurd rfl notZero, updatable.handles⟩

theorem onError_valid {state : EmitterRun} (updatable : state.Updatable) {outcome : EmitOutcome}
    (returns : outcome = .returns .accepted ∨ outcome = .returns .refused) (error : Error) (now : UInt32) :
    (state.onError error now outcome).Valid ∧ ((state.onError error now outcome).emitter.requestHandle = 0 ∨
      (state.onError error now outcome).emitter.requestHandle = state.handles + 1) := by
  unfold EmitterRun.onError
  split
  · exact ⟨update_valid updatable.requestDone returns now, update_handle rfl returns now⟩
  · exact ⟨updatable.requestDone.scheduled, .inl rfl⟩

theorem onResponse_valid {state : EmitterRun} (updatable : state.Updatable) {outcome : EmitOutcome}
    (returns : outcome = .returns .accepted ∨ outcome = .returns .refused) (code : UInt8) (now : UInt32) :
    (state.onResponse code now outcome).Valid ∧ ((state.onResponse code now outcome).emitter.requestHandle = 0 ∨
      (state.onResponse code now outcome).emitter.requestHandle = state.handles + 1) := by
  unfold EmitterRun.onResponse
  simp only
  split
  · refine ⟨update_valid ?_ returns now, update_handle rfl returns now⟩
    refine ⟨?_, fun notZero => absurd rfl notZero, updatable.handles⟩
    intro entry member isSet
    obtain ⟨original, isEntry, rfl⟩ := List.mem_map.mp member
    split
    · rename_i inFlight
      rw [if_pos inFlight] at isSet
      exact absurd rfl isSet
    · rename_i notInFlight
      rw [if_neg notInFlight] at isSet
      exact updatable.windows original isEntry isSet
  · exact ⟨updatable.requestDone.scheduled, .inl rfl⟩

/-- The table with another entry in one place. -/
theorem Updatable.setEntry {state : EmitterRun} (updatable : state.Updatable) (index : Nat) {entry : EventEntry}
    (window : entry.eventType ≠ eventTypeNone → entry.windowEnd ≠ noPendingEvent) :
    Updatable { state with emitter := { state.emitter with entries := state.emitter.entries.set index entry } } := by
  refine ⟨?_, updatable.request, updatable.handles⟩
  intro other member isSet
  rcases List.mem_or_eq_of_mem_set member with isEntry | rfl
  · exact updatable.windows other isEntry isSet
  · exact window isSet

theorem of_pending {state : EmitterRun} {handle : Nat} (isPending : state.pending.any (·.handle = handle) = true) :
    ∃ request ∈ state.pending, request.handle = handle := by
  simpa using isPending

theorem Valid.step {state state' : EmitterRun} (valid : state.Valid) {step : SendingStep} (may : MayTake step)
    (steps : state.stepSending step = .ok state') : state'.Valid := by
  obtain ⟨call, now, outcome⟩ := step
  obtain ⟨returns, may⟩ := may
  have done : ∀ handle (after : EmitterRun), after.Valid →
      after.emitter.requestHandle = 0 ∨ after.emitter.requestHandle = state.handles + 1 →
      state.pending.any (·.handle = handle) = true → (after.cancelRequest handle).Valid := by
    intro handle after valid' isHandle isPending
    obtain ⟨request, member, rfl⟩ := of_pending isPending
    obtain ⟨pos, le⟩ := valid.handles request member
    apply valid'.cancelRequest
    omega
  cases call with
  | setEvent eventType maxLatency =>
      obtain ⟨⟨after, _⟩, sets, isAfter⟩ := bind_ok steps
      obtain ⟨-, -, sets⟩ := bind_ok sets
      obtain rfl := Except.ok.inj isAfter
      split at sets
      · rw [← (Prod.mk.inj (Except.ok.inj sets)).1]
        exact valid
      · rw [← (Prod.mk.inj (Except.ok.inj sets)).1]
        exact update_valid (valid.updatable.setEntry _ (fun _ => may)) returns now
  | unsetEvent eventType =>
      obtain rfl := Except.ok.inj steps
      unfold EmitterRun.unsetEvent
      split
      · exact valid
      · exact update_valid (valid.updatable.setEntry _ (fun isSet => absurd rfl isSet)) returns now
  | timerFired =>
      unfold EmitterRun.stepSending at steps
      simp only at steps
      split at steps
      · obtain rfl := Except.ok.inj steps
        apply update_valid ?_ returns now
        exact ⟨valid.windows, valid.request, valid.handles⟩
      · obtain rfl := Except.ok.inj steps
        exact valid
  | response handle code =>
      unfold EmitterRun.stepSending at steps
      simp only at steps
      split at steps
      · rename_i isPending
        obtain rfl := Except.ok.inj steps
        obtain ⟨valid', isHandle⟩ := onResponse_valid valid.updatable returns code now
        exact done handle _ valid' isHandle isPending
      · obtain rfl := Except.ok.inj steps
        exact valid
  | error handle error =>
      unfold EmitterRun.stepSending at steps
      simp only at steps
      split at steps
      · rename_i isPending
        obtain rfl := Except.ok.inj steps
        obtain ⟨valid', isHandle⟩ := onError_valid valid.updatable returns error now
        exact done handle _ valid' isHandle isPending
      · obtain rfl := Except.ok.inj steps
        exact valid

theorem Valid.run {state state' : EmitterRun} (valid : state.Valid) {steps : List SendingStep}
    (may : ∀ step ∈ steps, MayTake step) (runs : state.runSending steps = .ok state') : state'.Valid :=
  Runs.run_keeps (fun _ _ _ valid may steps => valid.step may steps) valid may runs

theorem valid_create (maxEvents : Nat) (retryDelay minRequestAge : UInt32) :
    (create maxEvents retryDelay minRequestAge).Valid := by
  have free : ∀ entry ∈ List.replicate maxEvents (⟨0, 0, false⟩ : EventEntry), ¬ entry.eventType ≠ eventTypeNone := by
    intro entry member
    rw [(List.mem_replicate.mp member).2]
    simp [eventTypeNone]
  refine ⟨fun entry member isSet => absurd isSet (free entry member), fun notZero => absurd rfl notZero,
    fun _ member => (nomatch member), ?_⟩
  rintro ⟨entry, member, isSet⟩
  exact absurd isSet (free entry member)

end EmitterRun

/-- In every run in which no window ends at the last 32-bit time, no request fails once its handle
    was stored, and none is answered while it is sent: while an event is set, a request is pending or
    the timer is scheduled. -/
theorem remembers_of_run (maxEvents : Nat) (retryDelay minRequestAge : UInt32) (steps : List SendingStep)
    (state : EmitterRun) (may : ∀ step ∈ steps, EmitterRun.MayTake step)
    (runs : (EmitterRun.create maxEvents retryDelay minRequestAge).runSending steps = .ok state) : state.Remembers :=
  ((EmitterRun.valid_create maxEvents retryDelay minRequestAge).run may runs).remembers

/-- An event is emitted and refused, the timer fires, and the event is set again while the second
    request is pending. -/
def emitterSteps : List EmitterStep :=
  [⟨.setEvent 7 0, 0, .refused⟩, ⟨.timerFired, 30000, .accepted⟩, ⟨.setEvent 7 100, 30001, .accepted⟩,
    ⟨.response 2 codeChanged, 30002, .accepted⟩]

theorem remembers_emitterSteps :
    ∃ state, (EmitterRun.create 2 0 0).runSending (emitterSteps.map EmitterStep.sending) = .ok state ∧
      state.emitter.timerScheduled = true ∧ EmitterRun.HasEvent state.emitter.entries ∧ state.Remembers := by
  have runs : ∃ state, (EmitterRun.create 2 0 0).runSending (emitterSteps.map EmitterStep.sending) = .ok state ∧
      state.emitter.timerScheduled = true ∧ EmitterRun.HasEvent state.emitter.entries := ⟨_, rfl, rfl, by decide⟩
  obtain ⟨state, runs, scheduled, hasEvent⟩ := runs
  refine ⟨state, runs, scheduled, hasEvent, remembers_of_run 2 0 0 _ state ?_ runs⟩
  intro step member
  simp only [emitterSteps, List.map_cons, List.map_nil, List.mem_cons, List.not_mem_nil, or_false] at member
  rcases member with rfl | rfl | rfl | rfl
  · exact ⟨.inr rfl, show (0 : UInt32) + 0 ≠ noPendingEvent by decide⟩
  · exact ⟨.inl rfl, trivial⟩
  · exact ⟨.inl rfl, show (30001 : UInt32) + 100 ≠ noPendingEvent by decide⟩
  · exact ⟨.inl rfl, trivial⟩

/-- An event is forgotten when the sink fails while its request is sent; when its window ends at the
    last 32-bit time; when its request could not be made after the handle was stored; and when a
    server error comes from inside the send. -/
theorem emitter_forgets :
    (∃ state, (EmitterRun.create 1 0 0).runSending [⟨.setEvent 7 0, 10, .returns .reported⟩] = .ok state ∧
        ¬ state.Remembers) ∧
      (∃ state, (EmitterRun.create 1 0 0).runSending [⟨.setEvent 7 0xFFFFFFFF, 0, .returns .accepted⟩] = .ok state ∧
        ¬ state.Remembers) ∧
      (∃ state, (EmitterRun.create 1 1000 0).runSending
        [⟨.setEvent 7 0, 10, .returns .failed⟩, ⟨.timerFired, 1010, .returns .accepted⟩] = .ok state ∧ ¬ state.Remembers) ∧
      ∃ state, (EmitterRun.create 1 0 0).runSending [⟨.setEvent 7 0, 10, .answered 0xA0⟩] = .ok state ∧
        ¬ state.Remembers :=
  ⟨⟨_, rfl, by decide⟩, ⟨_, rfl, by decide⟩, ⟨_, rfl, by decide⟩, ⟨_, rfl, by decide⟩⟩

end GoldenGate
