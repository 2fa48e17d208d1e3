import GoldenGate.Coap.Endpoint
import GoldenGate.Common.Io
import GoldenGate.Lib.Fifo

/-! # The queue of responses

The embedding of the responses of `gg_coap_endpoint.c`, which go to the sink or wait in a circular
array. The sink does not call the endpoint when it gets one. What it returns may depend on all that
was before.
-/

namespace GoldenGate.Coap

open Memory Fifo

/-- The responses of a `GG_CoapEndpoint`: two arrays, for the datagrams and their metadata. -/
structure ResponseQueue where
  datagrams : List (Option (List UInt8))
  metadata : List (Option (Option BufferMetadata))
  cursor : Nat
  count : Nat
  deriving Repr, DecidableEq

/-- A datagram, with where it is to be sent. -/
abbrev Response := List UInt8 × Option BufferMetadata

/-- The part of a `GG_CoapEndpoint` that sends responses, and what was seen of it. -/
structure ResponseRun (σ : Type) where
  connectionSink : Option σ
  responses : ResponseQueue
  tryResponsesFirst : Bool
  history : List (Event σ Response)
  deriving Repr, DecidableEq

/-- What the sink returns for the next datagram. -/
abbrev SinkResults (σ : Type) := List (Event σ Response) → PutResult

inductive ResponseStep (σ : Type) where
  | sendResponse (response : Response) (results : SinkResults σ)
  | canPut (results : SinkResults σ)
  | setDataSink (sink : Option σ) (results : SinkResults σ)

namespace ResponseQueue

/-- An empty queue. The length is `GG_CONFIG_COAP_RESPONSE_QUEUE_LENGTH`. -/
def create (length : Nat) : ResponseQueue := ⟨List.replicate length none, List.replicate length none, 0, 0⟩

/-- `GG_CoapEndpoint_EnqueueResponse`. -/
def enqueueResponse (self : ResponseQueue) (response : Response) : Access (Except Error ResponseQueue) := do
  assert (self.cursor < self.datagrams.length)
  assert (self.count ≤ self.datagrams.length)
  if self.count = self.datagrams.length then return .error .outOfResources
  let tail := (self.cursor + self.count) % self.datagrams.length
  return .ok { self with
    datagrams := self.datagrams.set tail (some response.1)
    metadata := self.metadata.set tail (some response.2)
    count := self.count + 1 }

/-- The response at the cursor. -/
def front (self : ResponseQueue) : Access Response :=
  match self.datagrams[self.cursor]?, self.metadata[self.cursor]? with
  | some (some datagram), some (some metadata) => .ok (datagram, metadata)
  | some _, some _ => .error .undefined
  | _, _ => .error .outOfBounds

/-- The response at the cursor is removed. -/
def removeFront (self : ResponseQueue) : ResponseQueue :=
  { self with cursor := (self.cursor + 1) % self.datagrams.length, count := self.count - 1 }

end ResponseQueue

namespace ResponseRun

variable {σ : Type}

def log (self : ResponseRun σ) (event : Event σ Response) : ResponseRun σ :=
  { self with history := self.history ++ [event] }

/-- `GG_DataSink_PutData`. -/
def putData (self : ResponseRun σ) (results : SinkResults σ) (sink : σ) (response : Response) :
    ResponseRun σ × PutResult :=
  match results self.history with
  | .success => (self.log (.taken sink response), .success)
  | .wouldBlock => (self.log (.blocked sink response), .wouldBlock)
  | .failure => (self.log (.failed sink response), .failure)

def removeFront (self : ResponseRun σ) : ResponseRun σ := { self with responses := self.responses.removeFront }

/-- The loop of `GG_CoapEndpoint_SendPendingResponses`. -/
def sendPendingLoop (results : SinkResults σ) : Nat → ResponseRun σ → Access (ResponseRun σ)
  | 0, _ => .error .diverges
  | fuel + 1, self =>
      if self.responses.count = 0 then return self
      else do
        let response ← self.responses.front
        match self.connectionSink with
        | none => sendPendingLoop results fuel (self.log (.dropped response)).removeFront
        | some sink =>
            match self.putData results sink response with
            | (self, .wouldBlock) => return self
            | (self, _) => sendPendingLoop results fuel self.removeFront

/-- `GG_CoapEndpoint_SendPendingResponses`. -/
def sendPendingResponses (self : ResponseRun σ) (results : SinkResults σ) : Access (ResponseRun σ) :=
  sendPendingLoop results (self.responses.count + 1) self

/-- The end of `GG_CoapEndpoint_SendResponse`, where the response is enqueued, or the producer gets an
    error. -/
def enqueue (self : ResponseRun σ) (response : Response) : Access (ResponseRun σ × Option Error) := do
  match ← self.responses.enqueueResponse response with
  | .ok responses => return ({ self with responses := responses }, none)
  | .error error => return (self, some error)

/-- `GG_CoapEndpoint_SendResponse`. -/
def sendResponse (self : ResponseRun σ) (response : Response) (results : SinkResults σ) :
    Access (ResponseRun σ × Option Error) := do
  let self ← self.sendPendingResponses results
  let self := self.log (.produced response)
  match self.connectionSink with
  | none => return (self.log (.dropped response), none)
  | some sink =>
      if self.responses.count = 0 then
        match self.putData results sink response with
        | (self, .wouldBlock) => self.enqueue response
        | (self, _) => return (self, none)
      else self.enqueue response

/-- A response for which the producer gets an error was refused. `OnCanPut` sends requests too, before
    the responses or after them. -/
def step (self : ResponseRun σ) : ResponseStep σ → Access (ResponseRun σ)
  | .sendResponse response results => do
      match ← self.sendResponse response results with
      | (self, none) => return self
      | (self, some _) => return self.log (.refused response)
  | .canPut results => do
      let self ← self.sendPendingResponses results
      return { self with tryResponsesFirst := !self.tryResponsesFirst }
  | .setDataSink sink results =>
      let self := { self with connectionSink := sink }.log (.sink sink)
      if sink.isSome then self.sendPendingResponses results else return self

def run (self : ResponseRun σ) (steps : List (ResponseStep σ)) : Access (ResponseRun σ) := steps.foldlM step self

/-- An endpoint that was just created. -/
def create (length : Nat) : ResponseRun σ := ⟨none, ResponseQueue.create length, false, []⟩

/-- The responses that are produced in some steps. -/
def responsesOf : List (ResponseStep σ) → List Response :=
  List.filterMap fun
    | .sendResponse response _ => some response
    | _ => none

end ResponseRun

/-- The arrays hold these responses, and no others. -/
structure ResponseQueue.Queued (capacity : Nat) (queue : ResponseQueue) (pending : List Response) : Prop where
  datagrams : Fifo.Holds queue.datagrams queue.cursor (pending.map Prod.fst)
  metadata : Fifo.Holds queue.metadata queue.cursor (pending.map Prod.snd)
  count : queue.count = pending.length
  size : queue.datagrams.length = capacity
  sameSize : queue.metadata.length = capacity

/-- The endpoint has done what a queue of some capacity may do, and holds what is left in it. -/
structure ResponseRun.IsFifo {σ : Type} (capacity : Nat) (state : ResponseRun σ) (pending : List Response) : Prop where
  runs : Runs capacity ⟨none, []⟩ state.history ⟨state.connectionSink, pending⟩
  queued : state.responses.Queued capacity pending

/-! ## Single operations -/

namespace ResponseQueue

variable {capacity : Nat} {queue : ResponseQueue}

theorem queued_create (positive : 0 < capacity) : (create capacity).Queued capacity [] :=
  ⟨holds_nil (by simpa [create] using positive), holds_nil (by simpa [create] using positive), rfl,
    List.length_replicate, List.length_replicate⟩

theorem Queued.front {response : Response} {pending : List Response}
    (queued : queue.Queued capacity (response :: pending)) : queue.front = .ok response := by
  have datagram := queued.datagrams.first
  have metadata := queued.metadata.first
  unfold ResponseQueue.front
  rw [datagram, metadata]

theorem Queued.removeFront {response : Response} {pending : List Response}
    (queued : queue.Queued capacity (response :: pending)) : queue.removeFront.Queued capacity pending := by
  obtain ⟨datagrams, metadata, count, size, sameSize⟩ := queued
  have pops := metadata.pop
  rw [sameSize, ← size] at pops
  refine ⟨datagrams.pop, pops, ?_, size, sameSize⟩
  change queue.count - 1 = _
  rw [count]
  rfl

/-- A response is enqueued unless the queue is full. -/
theorem Queued.enqueueResponse {pending : List Response} (queued : queue.Queued capacity pending) (response : Response) :
    (pending.length = capacity ∧ queue.enqueueResponse response = .ok (.error .outOfResources)) ∨
      ∃ queue', queue.enqueueResponse response = .ok (.ok queue') ∧ queue'.Queued capacity (pending ++ [response]) := by
  obtain ⟨datagrams, metadata, count, size, sameSize⟩ := queued
  have inside := datagrams.inside
  have fits := datagrams.fits
  have sizes : (pending.map Prod.fst).length = pending.length := List.length_map _
  unfold ResponseQueue.enqueueResponse
  rw [assert_of inside, ok_bind, assert_of (by omega), ok_bind]
  by_cases full : queue.count = queue.datagrams.length
  · rw [if_pos full]
    exact .inl ⟨by omega, rfl⟩
  · rw [if_neg full]
    have pushed := datagrams.push (by omega) response.1
    have pushed' := metadata.push (by rw [List.length_map]; omega) response.2
    rw [List.length_map, ← count] at pushed pushed'
    rw [sameSize, ← size] at pushed'
    refine .inr ⟨_, rfl, ?_, ?_, ?_, ?_, ?_⟩
    · rw [List.map_append]
      exact pushed
    · rw [List.map_append]
      exact pushed'
    · change queue.count + 1 = _
      rw [count, List.length_append]
      rfl
    · exact (List.length_set ..).trans size
    · exact (List.length_set ..).trans sameSize

end ResponseQueue

namespace ResponseRun

section Operations

variable {σ : Type} {capacity : Nat} {state : ResponseRun σ}

/-- The first response leaves the queue by what happens to it. -/
theorem IsFifo.removeFront {response : Response} {pending : List Response}
    (isFifo : IsFifo capacity state (response :: pending)) (event : Event σ Response)
    (step : Step capacity ⟨state.connectionSink, response :: pending⟩ event ⟨state.connectionSink, pending⟩) :
    IsFifo capacity (state.log event).removeFront pending :=
  ⟨isFifo.runs.snoc step, isFifo.queued.removeFront⟩

/-- What comes of sending what was pending in some state: a queue, without new responses, which is empty
    if there is no sink. -/
def Drained (capacity : Nat) (state : ResponseRun σ) (drained : Access (ResponseRun σ)) : Prop :=
  ∃ state' pending', drained = .ok state' ∧ IsFifo capacity state' pending' ∧
    state'.connectionSink = state.connectionSink ∧ (state.connectionSink = none → pending' = []) ∧
    produced state'.history = produced state.history

/-- What is pending is sent, up to a point where the sink blocks. -/
theorem IsFifo.sendPendingLoop (results : SinkResults σ) {pending : List Response} (isFifo : IsFifo capacity state pending)
    {fuel : Nat} (enough : pending.length < fuel) :
    Drained capacity state (ResponseRun.sendPendingLoop results fuel state) := by
  induction pending generalizing state fuel with
  | nil =>
      cases fuel with
      | zero => exact absurd enough (Nat.not_lt_zero _)
      | succ fuel =>
          have none_ : state.responses.count = 0 := isFifo.queued.count
          unfold ResponseRun.sendPendingLoop
          rw [if_pos none_]
          exact ⟨state, [], rfl, isFifo, rfl, fun _ => rfl, rfl⟩
  | cons response pending ih =>
      cases fuel with
      | zero => exact absurd enough (Nat.not_lt_zero _)
      | succ fuel =>
          have some_ : ¬ state.responses.count = 0 := by
            rw [isFifo.queued.count]
            exact Nat.succ_ne_zero _
          have fewer := Nat.lt_of_succ_lt_succ enough
          -- the loop goes on with a queue that is shorter by one response, which nothing was added to
          have goesOn (event : Event σ Response) (none_ : produced [event] = [])
              (step : Step capacity ⟨state.connectionSink, response :: pending⟩ event ⟨state.connectionSink, pending⟩) :
              Drained capacity state (ResponseRun.sendPendingLoop results fuel (state.log event).removeFront) := by
            obtain ⟨state', pending', loops, isFifo', sameSink, drained, same⟩ := ih (isFifo.removeFront event step) fewer
            have kept : produced state'.history = produced state.history := by
              rw [same]
              exact (produced_append _ _).trans (by rw [none_, List.append_nil])
            exact ⟨state', pending', loops, isFifo', sameSink, drained, kept⟩
          unfold ResponseRun.sendPendingLoop
          rw [if_neg some_, isFifo.queued.front, ok_bind]
          cases isSink : state.connectionSink with
          | none =>
              exact goesOn (.dropped response) rfl (by rw [isSink]; exact .dropped)
          | some sink =>
              dsimp only
              unfold putData
              cases results state.history with
              | success => exact goesOn (.taken sink response) rfl (by rw [isSink]; exact .taken)
              | failure => exact goesOn (.failed sink response) rfl (by rw [isSink]; exact .failed)
              | wouldBlock =>
                  have blocked : Step capacity ⟨state.connectionSink, response :: pending⟩ (.blocked sink response)
                      ⟨state.connectionSink, response :: pending⟩ := by
                    rw [isSink]
                    exact .blocked
                  refine ⟨_, _, rfl, ⟨isFifo.runs.snoc blocked, isFifo.queued⟩, rfl, ?_,
                    (produced_append _ _).trans (List.append_nil _)⟩
                  intro isNone
                  rw [isSink] at isNone
                  exact nomatch isNone

theorem IsFifo.sendPendingResponses (results : SinkResults σ) {pending : List Response}
    (isFifo : IsFifo capacity state pending) : Drained capacity state (state.sendPendingResponses results) := by
  unfold ResponseRun.sendPendingResponses
  exact isFifo.sendPendingLoop results (by rw [isFifo.queued.count]; exact Nat.lt_succ_self _)

/-- What comes of a response: a queue with it, or without it and an error for its producer. -/
def Responded (capacity : Nat) (response : Response) (before : List Response)
    (responded : Access (ResponseRun σ × Option Error)) : Prop :=
  ∃ state' error, responded = .ok (state', error) ∧ produced state'.history = before ++ [response] ∧
    match error with
    | none => ∃ pending', IsFifo capacity state' pending'
    | some _ => ∃ pending', IsFifo capacity (state'.log (.refused response)) pending'

theorem enqueue_responded {pending : List Response} {response : Response} {before : List Response}
    (runs : Runs capacity ⟨none, []⟩ state.history ⟨state.connectionSink, pending ++ [response]⟩)
    (queued : state.responses.Queued capacity pending) (new : produced state.history = before ++ [response]) :
    Responded capacity response before (state.enqueue response) := by
  unfold enqueue
  rcases queued.enqueueResponse response with ⟨full, refuses⟩ | ⟨queue', enqueues, queued'⟩
  · rw [refuses]
    exact ⟨_, _, rfl, new, pending, runs.snoc (.refused full), queued⟩
  · rw [enqueues]
    exact ⟨_, _, rfl, new, _, runs, queued'⟩

theorem IsFifo.sendResponse (response : Response) (results : SinkResults σ) {pending : List Response}
    (isFifo : IsFifo capacity state pending) :
    Responded capacity response (produced state.history) (state.sendResponse response results) := by
  obtain ⟨state', pending', sends, isFifo', sameSink, drained, same⟩ := isFifo.sendPendingResponses results
  have runs := isFifo'.runs.snoc (.produced response)
  have new : produced (state'.log (.produced response)).history = produced state.history ++ [response] := by
    rw [← same]
    exact produced_append _ _
  -- nothing else is told of the response but what becomes of it
  have told (event : Event σ Response) (none_ : produced [event] = []) :
      produced ((state'.log (.produced response)).log event).history = produced state.history ++ [response] :=
    (produced_append _ _).trans (by rw [none_, List.append_nil, new])
  unfold ResponseRun.sendResponse
  rw [sends, ok_bind]
  change Responded _ _ _ (match state'.connectionSink with | none => _ | some sink => _)
  cases isSink : state'.connectionSink with
  | none =>
      obtain rfl := drained (sameSink.symm.trans isSink)
      rw [isSink] at runs
      exact ⟨_, none, rfl, told (.dropped response) rfl, [], isSink.symm ▸ runs.snoc .dropped, isFifo'.queued⟩
  | some sink =>
      dsimp only
      by_cases isEmpty : (state'.log (.produced response)).responses.count = 0
      · obtain rfl : pending' = [] := List.length_eq_zero_iff.mp (isFifo'.queued.count.symm.trans isEmpty)
        rw [if_pos isEmpty]
        rw [isSink] at runs
        unfold putData
        cases results (state'.log (.produced response)).history with
        | success =>
            exact ⟨_, none, rfl, told (.taken sink response) rfl, [], isSink.symm ▸ runs.snoc .taken, isFifo'.queued⟩
        | failure =>
            exact ⟨_, none, rfl, told (.failed sink response) rfl, [], isSink.symm ▸ runs.snoc .failed, isFifo'.queued⟩
        | wouldBlock =>
            have blocked : Runs capacity ⟨none, []⟩ ((state'.log (.produced response)).log (.blocked sink response)).history
                ⟨state'.connectionSink, [] ++ [response]⟩ := isSink.symm ▸ runs.snoc .blocked
            exact enqueue_responded blocked isFifo'.queued (told (.blocked sink response) rfl)
      · rw [if_neg isEmpty]
        exact enqueue_responded runs isFifo'.queued new

theorem IsFifo.step {pending : List Response} (isFifo : IsFifo capacity state pending) (step : ResponseStep σ) :
    ∃ state' pending', state.step step = .ok state' ∧ IsFifo capacity state' pending' ∧
      produced state'.history = produced state.history ++ responsesOf [step] := by
  unfold ResponseRun.step
  cases step with
  | sendResponse response results =>
      obtain ⟨state', error, sends, new, becomes⟩ := isFifo.sendResponse response results
      dsimp only
      rw [sends, ok_bind]
      cases error with
      | none =>
          obtain ⟨pending', isFifo'⟩ := becomes
          exact ⟨state', pending', rfl, isFifo', new⟩
      | some error =>
          obtain ⟨pending', isFifo'⟩ := becomes
          refine ⟨_, pending', rfl, isFifo', (produced_append _ _).trans ?_⟩
          rw [new]
          exact List.append_nil _
  | canPut results =>
      obtain ⟨state', pending', sends, isFifo', -, -, same⟩ := isFifo.sendPendingResponses results
      dsimp only
      rw [sends, ok_bind]
      exact ⟨_, pending', rfl, ⟨isFifo'.runs, isFifo'.queued⟩, same.trans (List.append_nil _).symm⟩
  | setDataSink sink results =>
      have changed : IsFifo capacity ({ state with connectionSink := sink }.log (.sink sink)) pending :=
        ⟨isFifo.runs.snoc (.sink sink), isFifo.queued⟩
      have none_ : produced ({ state with connectionSink := sink }.log (.sink sink)).history =
          produced state.history ++ responsesOf [.setDataSink sink results] := produced_append _ _
      dsimp only
      cases sink with
      | none => exact ⟨_, pending, rfl, changed, none_⟩
      | some sink =>
          obtain ⟨state', pending', sends, isFifo', -, -, same⟩ := changed.sendPendingResponses results
          exact ⟨state', pending', sends, isFifo', same.trans none_⟩

theorem IsFifo.run {pending : List Response} (isFifo : IsFifo capacity state pending) (steps : List (ResponseStep σ)) :
    ∃ state' pending', state.run steps = .ok state' ∧ IsFifo capacity state' pending' ∧
      produced state'.history = produced state.history ++ responsesOf steps := by
  induction steps generalizing state pending with
  | nil => exact ⟨state, pending, rfl, isFifo, (List.append_nil _).symm⟩
  | cons step steps ih =>
      obtain ⟨between, pending', steps', isFifo', new⟩ := isFifo.step step
      obtain ⟨state', pending'', runs, isFifo'', new'⟩ := ih isFifo'
      refine ⟨state', pending'', ?_, isFifo'', ?_⟩
      · unfold ResponseRun.run at runs ⊢
        rw [List.foldlM_cons, steps', ok_bind]
        exact runs
      · rw [new', new, List.append_assoc]
        exact congrArg _ List.filterMap_append.symm

end Operations

/-- Responses go to the sink in the order in which they were produced, each one once. They get lost only
    where the sink fails, where there is none, and where the queue is full, which their producer is told.
    The array holds those that are left. -/
theorem responses_in_order {σ : Type} {capacity : Nat} (positive : 0 < capacity) (steps : List (ResponseStep σ)) :
    ∃ state pending, (create capacity).run steps = .ok state ∧ IsFifo capacity state pending ∧
      produced state.history = responsesOf steps ∧
      (settled state.history ++ pending).Sublist (responsesOf steps) ∧
      (taken state.history ++ (lost state.history ++ pending)).Perm (responsesOf steps) := by
  have isFifo : IsFifo capacity (create capacity : ResponseRun σ) [] := ⟨.nil, ResponseQueue.queued_create positive⟩
  obtain ⟨state, pending, runs, isFifo', new⟩ := isFifo.run steps
  have all : produced state.history = responsesOf steps := new.trans (List.nil_append _)
  have ordered := isFifo'.runs.ordered
  have accounted := isFifo'.runs.accounted
  rw [all] at ordered accounted
  exact ⟨state, pending, runs, isFifo', all, ordered, accounted⟩

/-- A sink that blocks at first. -/
def blockedFirst : List (ResponseStep Unit) :=
  [.setDataSink (some ()) fun _ => .success, .sendResponse ([1], none) fun _ => .wouldBlock,
    .sendResponse ([2], none) fun _ => .wouldBlock, .sendResponse ([3], none) fun _ => .wouldBlock,
    .canPut fun _ => .success]

/-- The third response is one too many for a queue of two. -/
theorem responses_in_order_blockedFirst :
    ∃ state, (create 2).run blockedFirst = .ok state ∧ taken state.history = [([1], none), ([2], none)] ∧
      lost state.history = [([3], none)] ∧
      (taken state.history ++ (lost state.history ++ [])).Perm (responsesOf blockedFirst) := by
  obtain ⟨state, pending, runs, isFifo, -, -, accounted⟩ := @responses_in_order Unit 2 (by decide) blockedFirst
  have ran : ((create 2).run blockedFirst).toOption.map (fun state => (taken state.history, lost state.history,
      state.responses.count)) = some ([([1], none), ([2], none)], [([3], none)], 0) := by decide
  rw [runs] at ran
  obtain ⟨isTaken, isLost, isEmpty⟩ := Prod.mk.inj (Option.some.inj ran) |>.imp_right Prod.mk.inj
  obtain rfl : pending = [] := List.length_eq_zero_iff.mp (isFifo.queued.count.symm.trans isEmpty)
  exact ⟨state, runs, isTaken, isLost, accounted⟩

end ResponseRun

end GoldenGate.Coap
