import GoldenGate.Coap.Serving
import GoldenGate.Lib.Registry
import GoldenGate.Lib.Runs

/-! # The nodes of handlers and filters

The embedding of how `gg_coap_endpoint.c` keeps its handlers and filters in lists of nodes, and of
`GG_CoapEndpoint_OnRequest` with its pointers to them. A filter or a handler may register and unregister
handlers and filters before it returns: what was removed is not read after that.
-/

namespace GoldenGate.Coap

open Memory Registry RequestHandlers Runs

/-- A pointer to a node that the endpoint has allocated for a registration, or to one of a caller. -/
inductive NodePointer where
  | allocated (registration : Nat)
  | given (node : Nat)
  deriving Repr, DecidableEq

/-- The nodes of a `GG_CoapEndpoint`, and how many were registered. -/
structure RequestNodes (η φ : Type) where
  handlers : List (Entry NodePointer (RequestHandlerNode η))
  requestFilters : List (Entry NodePointer φ)
  defaultHandler : Option η
  registrations : Nat

/-- The calls that change them. -/
inductive NodeCall (η φ : Type) where
  | registerRequestHandler (path : List UInt8) (flags : UInt32) (handler : η)
  | registerRequestHandlerNode (node : Nat) (path : List UInt8) (flags : UInt32) (handler : η)
  | unregisterRequestHandler (path : Option (List UInt8)) (handler : Option η)
  | setDefaultRequestHandler (handler : Option η)
  | registerRequestFilter (filter : φ)
  | registerRequestFilterNode (node : Nat) (filter : φ)
  | unregisterRequestFilter (filter : φ)

/-- What `GG_CoapEndpoint_OnRequest` has in `handler`: a registered node, or the node of the default handler,
    which is its own. -/
inductive FoundHandler (η : Type) where
  | registered (pointer : NodePointer)
  | default (handler : η)

/-- `GG_COAP_REQUEST_HANDLER_FLAG_ENABLE_ASYNC`. -/
def flagEnableAsync : UInt32 := 16

namespace RequestNodes

variable {η φ : Type}

def create : RequestNodes η φ := ⟨[], [], none, 0⟩

/-- `GG_CoapEndpoint_RegisterRequestHandlerNode`, for a node at some address. -/
def registerHandlerAt (nodes : RequestNodes η φ) (pointer : NodePointer) (path : List UInt8) (flags : UInt32)
    (handler : η) : RequestNodes η φ :=
  { nodes with
    handlers := nodes.handlers ++ [⟨pointer, nodes.registrations, ⟨path.dropWhile (· = slash), flags, handler⟩⟩]
    registrations := nodes.registrations + 1 }

/-- `GG_CoapEndpoint_RegisterRequestFilterNode`, for a node at some address. -/
def registerFilterAt (nodes : RequestNodes η φ) (pointer : NodePointer) (filter : φ) : RequestNodes η φ :=
  { nodes with
    requestFilters := nodes.requestFilters ++ [⟨pointer, nodes.registrations, filter⟩]
    registrations := nodes.registrations + 1 }

section Calls

variable [DecidableEq η] [DecidableEq φ]

/-- Whether a node is for a path and a handler, each of which may be left open. -/
def isMatch (path : Option (List UInt8)) (handler : Option η)
    (entry : Entry NodePointer (RequestHandlerNode η)) : Bool :=
  let pathMatch := match path with
    | none => true
    | some path => path.dropWhile (· = slash) = entry.value.path
  let handlerMatch := match handler with
    | none => true
    | some handler => entry.value.handler = handler
  pathMatch && handlerMatch

/-- `GG_CoapEndpoint_UnregisterRequestHandler`. -/
def unregisterRequestHandler (nodes : RequestNodes η φ) (path : Option (List UInt8)) (handler : Option η) :
    Except Error (RequestNodes η φ) :=
  if nodes.handlers.any (isMatch path handler) then
    .ok { nodes with handlers := nodes.handlers.eraseP (isMatch path handler) }
  else .error .noSuchItem

/-- `GG_CoapEndpoint_UnregisterRequestFilter`. -/
def unregisterRequestFilter (nodes : RequestNodes η φ) (filter : φ) : Except Error (RequestNodes η φ) :=
  if nodes.requestFilters.any (·.value = filter) then
    .ok { nodes with requestFilters := nodes.requestFilters.eraseP (·.value = filter) }
  else .error .noSuchItem

/-- What a call leaves, also one that returns an error. -/
def call (nodes : RequestNodes η φ) : NodeCall η φ → RequestNodes η φ
  | .registerRequestHandler path flags handler =>
      nodes.registerHandlerAt (.allocated nodes.registrations) (path.dropWhile (· = slash)) flags handler
  | .registerRequestHandlerNode node path flags handler => nodes.registerHandlerAt (.given node) path flags handler
  | .unregisterRequestHandler path handler =>
      match nodes.unregisterRequestHandler path handler with
      | .ok nodes => nodes
      | .error _ => nodes
  | .setDefaultRequestHandler handler => { nodes with defaultHandler := handler }
  | .registerRequestFilter filter => nodes.registerFilterAt (.allocated nodes.registrations) filter
  | .registerRequestFilterNode node filter => nodes.registerFilterAt (.given node) filter
  | .unregisterRequestFilter filter =>
      match nodes.unregisterRequestFilter filter with
      | .ok nodes => nodes
      | .error _ => nodes

end Calls

/-- `handler->…`. -/
def deref (nodes : RequestNodes η φ) : FoundHandler η → Access (RequestHandlerNode η)
  | .registered pointer =>
      match find nodes.handlers pointer with
      | none => .error .undefined
      | some entry => .ok entry.value
  | .default handler => .ok ⟨[slash], flagsAllowAll, handler⟩

/-- The loop that looks for a handler. -/
def findNode (request : Message) : List (Entry NodePointer (RequestHandlerNode η)) → Access (Option NodePointer)
  | [] => return none
  | entry :: entries => do if ← entry.value.isFor request then return some entry.pointer else findNode request entries

end RequestNodes

/-! ## Requests -/

/-- What is sent back for a request, and the result of `GG_CoapEndpoint_OnRequest`: whether the request is done
    with. -/
structure RequestOutcome where
  response : Option Message
  fullyHandled : Bool
  deriving Repr, DecidableEq

/-- What a filter or a handler has returned for a request, and whether it was given a responder. -/
structure Decision where
  request : Message
  result : HandlerResult
  responder : Bool
  deriving Repr, DecidableEq

/-- What is decided: with a responder the response may come later. -/
def Decision.outcome (decision : Decision) : Access RequestOutcome :=
  match decision.result with
  | .failed .wouldBlock => .ok ⟨none, !decision.responder⟩
  | result => do .ok ⟨← respond decision.request result, true⟩

/-- Where `GG_CoapEndpoint_OnRequest` waits: for a filter, which was given the flags of the handler; for a
    handler, which may have been given a responder. -/
inductive RequestStage (η : Type) where
  | idle
  | filtering (request : Message) (found : FoundHandler η) (filter : NodePointer) (flags : UInt32)
  | handling (request : Message) (found : FoundHandler η) (handler : η) (responder : Bool)

/-- The nodes and the request that is processed, with the registrations of the filters that were asked and
    the last decision; and what has become of the last one. -/
structure RequestRun (η φ : Type) where
  nodes : RequestNodes η φ
  stage : RequestStage η
  asked : List Nat
  decision : Option Decision
  outcome : Option RequestOutcome

/-- Handlers and filters are registered and unregistered, from anywhere; a request comes in; a filter and a
    handler return. There may be no memory for a responder. -/
inductive RequestStep (η φ : Type) where
  | call (call : NodeCall η φ)
  | receive (request : Message) (memory : Bool)
  | filterReturns (result : HandlerResult) (memory : Bool)
  | handlerReturns (result : HandlerResult)

namespace RequestRun

variable {η φ : Type}

def create : RequestRun η φ := ⟨.create, .idle, [], none, none⟩

/-- The request is done with. -/
def finish (state : RequestRun η φ) (response : Option Message) (fullyHandled : Bool) : RequestRun η φ :=
  { state with stage := .idle, outcome := some ⟨response, fullyHandled⟩ }

/-- The handler is called. -/
def invoke (state : RequestRun η φ) (request : Message) (found : FoundHandler η) (memory : Bool) :
    Access (RequestRun η φ) := do
  let node ← state.nodes.deref found
  let responder := decide (node.flags &&& flagEnableAsync ≠ 0)
  if responder && !memory then .ok (state.finish none true)
  else .ok { state with stage := .handling request found node.handler responder }

/-- The loop over the filters, with those that are left. -/
def ask (state : RequestRun η φ) (request : Message) (found : FoundHandler η) (memory : Bool) :
    List (Entry NodePointer φ) → Access (RequestRun η φ)
  | [] => state.invoke request found memory
  | filter :: _ => do
      let node ← state.nodes.deref found
      .ok { state with
        stage := .filtering request found filter.pointer node.flags
        asked := state.asked ++ [filter.registration] }

/-- `GG_CoapEndpoint_OnRequest`, up to the first call. -/
def onRequest (state : RequestRun η φ) (request : Message) (memory : Bool) : Access (RequestRun η φ) := do
  let pointer ← RequestNodes.findNode request state.nodes.handlers
  match (pointer.map .registered).or (state.nodes.defaultHandler.map .default) with
  | none => .ok (state.finish (← createResponse request codeNotFound) true)
  | some found => do
      let node ← state.nodes.deref found
      let method ← request.getCode
      if node.flags &&& methodFlag method = 0 then
        .ok (state.finish (← respond request (.code codeMethodNotAllowed.toNat)) true)
      else state.ask request found memory state.nodes.requestFilters

/-- A request comes in, for which nothing is decided. -/
def receive (state : RequestRun η φ) (request : Message) (memory : Bool) : Access (RequestRun η φ) :=
  onRequest { state with asked := [], decision := none, outcome := none } request memory

/-- A filter returns. The loop goes on behind its node. -/
def filterReturns (state : RequestRun η φ) (result : HandlerResult) (memory : Bool) : Access (RequestRun η φ) :=
  match state.stage with
  | .filtering request found filter _ =>
      let state := { state with decision := some ⟨request, result, false⟩ }
      match result with
      | .success =>
          match find state.nodes.requestFilters filter with
          | none => .error .undefined
          | some _ => state.ask request found memory (behind state.nodes.requestFilters filter)
      | result => do .ok (state.finish (← respond request result) true)
  | _ => .ok state

/-- A handler returns. The flags of its node tell if the response comes later. -/
def handlerReturns (state : RequestRun η φ) (result : HandlerResult) : Access (RequestRun η φ) :=
  match state.stage with
  | .handling request found _ responder => do
      assert (result ≠ .success)
      let state := { state with decision := some ⟨request, result, responder⟩ }
      match result with
      | .failed .wouldBlock =>
          let node ← state.nodes.deref found
          .ok (state.finish none (decide (node.flags &&& flagEnableAsync = 0)))
      | result => .ok (state.finish (← respond request result) true)
  | _ => .ok state

def step [DecidableEq η] [DecidableEq φ] (state : RequestRun η φ) : RequestStep η φ → Access (RequestRun η φ)
  | .call call => .ok { state with nodes := state.nodes.call call }
  | .receive request memory => state.receive request memory
  | .filterReturns result memory => state.filterReturns result memory
  | .handlerReturns result => state.handlerReturns result

def run [DecidableEq η] [DecidableEq φ] (state : RequestRun η φ) (steps : List (RequestStep η φ)) :
    Access (RequestRun η φ) :=
  steps.foldlM step state

/-- What the others may do: a node of a caller is registered when it is not yet in the list; a request comes in
    when the last one is done with; the filter or the handler that is waited for returns, a handler
    not with a success without a response. -/
def Comes (state : RequestRun η φ) : RequestStep η φ → Prop
  | .call (.registerRequestHandlerNode node _ _ _) => ∀ entry ∈ state.nodes.handlers, entry.pointer ≠ .given node
  | .call (.registerRequestFilterNode node _) => ∀ entry ∈ state.nodes.requestFilters, entry.pointer ≠ .given node
  | .call _ => True
  | .receive request _ => (state.stage matches .idle) ∧ ∃ datagram, createFromDatagram datagram = .ok (.ok request)
  | .filterReturns _ _ => (state.stage matches .filtering ..)
  | .handlerReturns result => (state.stage matches .handling ..) ∧ result ≠ .success

/-- When a filter returns that lets the request through, its node is registered, and that of the handler; and
    when a handler would block, its node is registered, and has the flag that decided about its
    responder. -/
def Permits (state : RequestRun η φ) : RequestStep η φ → Prop
  | .filterReturns .success _ => match state.stage with
      | .filtering _ found filter _ =>
          (∃ entry, find state.nodes.requestFilters filter = some entry) ∧ ∃ node, state.nodes.deref found = .ok node
      | _ => True
  | .handlerReturns (.failed .wouldBlock) => match state.stage with
      | .handling _ found _ responder =>
          ∃ node, state.nodes.deref found = .ok node ∧ decide (node.flags &&& flagEnableAsync ≠ 0) = responder
      | _ => True
  | _ => True

end RequestRun

/-! ## Changes of the nodes -/

section Changes

variable {η φ : Type} [DecidableEq η] [DecidableEq φ]
  {α : Type} {entries : List (Entry NodePointer α)} {registrations : Nat}

/-- The nodes that the endpoint has allocated are told by their registrations. -/
def Own (entries : List (Entry NodePointer α)) (registrations : Nat) : Prop :=
  ∀ entry ∈ entries, ∀ registration, entry.pointer = .allocated registration → registration < registrations

theorem Own.succ (own : Own entries registrations) : Own entries (registrations + 1) :=
  fun entry is registration isAllocated => Nat.lt_succ_of_lt (own entry is registration isAllocated)

theorem Own.fresh (own : Own entries registrations) :
    ∀ entry ∈ entries, entry.pointer ≠ .allocated registrations :=
  fun entry is same => Nat.lt_irrefl _ (own entry is _ same)

/-- A list of nodes changes in a way that a walk over it bears. -/
structure Changes (entries : List (Entry NodePointer α)) (registrations : Nat)
    (entries' : List (Entry NodePointer α)) (registrations' : Nat) : Prop where
  change : Change entries registrations entries' registrations'
  own : Own entries' registrations'

theorem Changes.append (own : Own entries registrations) {pointer : NodePointer}
    (fresh : ∀ entry ∈ entries, entry.pointer ≠ pointer)
    (known : ∀ registration, pointer = .allocated registration → registration = registrations) (value : α) :
    Changes entries registrations (entries ++ [⟨pointer, registrations, value⟩]) (registrations + 1) := by
  refine ⟨.append fresh value, ?_⟩
  intro entry is registration isAllocated
  rcases List.mem_append.mp is with old | new
  · exact Nat.lt_succ_of_lt (own entry old registration isAllocated)
  · rw [List.mem_singleton.mp new] at isAllocated
    rw [known registration isAllocated]
    exact Nat.lt_succ_self _

theorem Changes.eraseP (own : Own entries registrations) (p : Entry NodePointer α → Bool) :
    Changes entries registrations (entries.eraseP p) registrations :=
  ⟨.eraseP p, fun entry is => own entry (List.eraseP_subset is)⟩

theorem call_changes {state : RequestRun η φ} (own : Own state.nodes.requestFilters state.nodes.registrations)
    {call : NodeCall η φ} (comes : state.Comes (.call call)) :
    Changes state.nodes.requestFilters state.nodes.registrations (state.nodes.call call).requestFilters
      (state.nodes.call call).registrations := by
  cases call with
  | registerRequestHandler | registerRequestHandlerNode => exact ⟨.succ, own.succ⟩
  | setDefaultRequestHandler => exact ⟨.same, own⟩
  | registerRequestFilter filter => exact .append own own.fresh (by simp) _
  | registerRequestFilterNode node filter => exact .append own comes (by simp) _
  | unregisterRequestHandler path handler =>
      simp only [RequestNodes.call, RequestNodes.unregisterRequestHandler]
      cases state.nodes.handlers.any (RequestNodes.isMatch path handler) with
      | true | false => exact ⟨.same, own⟩
  | unregisterRequestFilter filter =>
      simp only [RequestNodes.call, RequestNodes.unregisterRequestFilter]
      cases state.nodes.requestFilters.any (·.value = filter) with
      | true => exact .eraseP own _
      | false => exact ⟨.same, own⟩

end Changes

/-! ## Invariants -/

namespace RequestRun

variable {η φ : Type}

/-- A request that was parsed. -/
def IsRequest (request : Message) : Prop := ∃ datagram, createFromDatagram datagram = .ok (.ok request)

/-- Where a call waits: the walk over the filters has met those that were asked. -/
def Standing (state : RequestRun η φ) : Prop :=
  match state.stage with
  | .idle => True
  | .filtering request _ filter _ =>
      IsRequest request ∧ Registry.Walk state.nodes.requestFilters state.nodes.registrations state.asked filter
  | .handling request _ _ _ => IsRequest request

/-- A request that is done with ends with what was decided last. -/
def Decided (state : RequestRun η φ) : Prop :=
  (state.stage matches .idle) → ∀ decision, state.decision = some decision →
    ∃ outcome, state.outcome = some outcome ∧ (decision.result ≠ .success → decision.outcome = .ok outcome)

/-- The nodes of the filters, and those that were asked. -/
structure Sane (state : RequestRun η φ) : Prop where
  numbered : Numbered state.nodes.requestFilters state.nodes.registrations
  own : Own state.nodes.requestFilters state.nodes.registrations
  once : state.asked.Nodup

/-- An endpoint between two steps. -/
structure Sound (state : RequestRun η φ) : Prop extends Sane state where
  standing : Standing state
  decided : Decided state

section Steps

variable {state : RequestRun η φ}

theorem getCode_ok {request : Message} (isRequest : IsRequest request) : ∃ code, request.getCode = .ok code := by
  obtain ⟨datagram, accepted⟩ := isRequest
  obtain ⟨wire, wireBytes, rfl⟩ := wire_of_accepted accepted
  exact ⟨_, (accessors_of_bytes wireBytes).1⟩

theorem findNode_ok {request : Message} (isRequest : IsRequest request)
    (entries : List (Entry NodePointer (RequestHandlerNode η))) :
    ∃ found, RequestNodes.findNode request entries = .ok found ∧
      ∀ pointer, found = some pointer → ∃ entry ∈ entries, entry.pointer = pointer := by
  obtain ⟨datagram, accepted⟩ := isRequest
  induction entries with
  | nil => exact ⟨none, rfl, fun _ isFound => (nomatch isFound)⟩
  | cons entry entries ih =>
      obtain ⟨matched, isFor⟩ := isFor_ok accepted entry.value
      obtain ⟨found, finds, isThere⟩ := ih
      unfold RequestNodes.findNode
      rw [isFor, ok_bind]
      cases matched with
      | true =>
          refine ⟨_, rfl, fun pointer isFound => ⟨entry, .head _, ?_⟩⟩
          cases isFound
          rfl
      | false =>
          refine ⟨found, finds, fun pointer isFound => ?_⟩
          obtain ⟨other, is, same⟩ := isThere pointer isFound
          exact ⟨other, .tail _ is, same⟩

/-- A node that is in the list can be read. -/
theorem deref_registered {nodes : RequestNodes η φ} {pointer : NodePointer}
    (isThere : ∃ entry ∈ nodes.handlers, entry.pointer = pointer) :
    ∃ node, nodes.deref (.registered pointer) = .ok node := by
  simp only [RequestNodes.deref, find]
  cases finds : nodes.handlers.find? (·.pointer = pointer) with
  | some entry => exact ⟨_, rfl⟩
  | none =>
      obtain ⟨entry, is, same⟩ := isThere
      exact absurd same (by simpa using List.find?_eq_none.mp finds entry is)

/-- A step goes well. -/
def Kept (after : Access (RequestRun η φ)) : Prop := ∃ state, after = .ok state ∧ Sound state

/-- The request is done with, by what was decided last. -/
theorem Sane.finish (sane : Sane state)
    {response : Option Message} {fullyHandled : Bool}
    (decided : ∀ decision, state.decision = some decision → decision.result ≠ .success →
      decision.outcome = .ok ⟨response, fullyHandled⟩) : Sound (state.finish response fullyHandled) :=
  ⟨⟨sane.numbered, sane.own, sane.once⟩, trivial, fun _ decision isDecision => ⟨_, rfl, decided decision isDecision⟩⟩

/-- The filters have let the request through so far. -/
theorem Sane.ask (sane : Sane state)
    (passed : ∀ decision, state.decision = some decision → decision.result = .success)
    {request : Message} (isRequest : IsRequest request) {found : FoundHandler η}
    (isNode : ∃ node, state.nodes.deref found = .ok node) (memory : Bool) {entries : List (Entry NodePointer φ)}
    (walk : ∀ filter others, entries = filter :: others → Registry.Walk state.nodes.requestFilters
      state.nodes.registrations (state.asked ++ [filter.registration]) filter.pointer) :
    Kept (state.ask request found memory entries) := by
  obtain ⟨node, isNode⟩ := isNode
  cases entries with
  | nil =>
      unfold RequestRun.ask invoke
      rw [isNode, ok_bind]
      dsimp only
      split
      · refine ⟨_, rfl, sane.finish fun decision isDecision notPassed => ?_⟩
        exact absurd (passed decision isDecision) notPassed
      · exact ⟨_, rfl, ⟨sane.numbered, sane.own, sane.once⟩, isRequest, fun isIdle => (nomatch isIdle)⟩
  | cons filter others =>
      have walk := walk filter others rfl
      simp only [RequestRun.ask, isNode, ok_bind]
      exact ⟨_, rfl, ⟨sane.numbered, sane.own, walk.once⟩, ⟨isRequest, walk⟩, fun isIdle => (nomatch isIdle)⟩

/-- The node that a request has found can be read. -/
theorem deref_found {nodes : RequestNodes η φ} {pointer : Option NodePointer}
    (isThere : ∀ pointer', pointer = some pointer' → ∃ entry ∈ nodes.handlers, entry.pointer = pointer')
    {found : FoundHandler η}
    (isFound : (pointer.map FoundHandler.registered).or (nodes.defaultHandler.map .default) = some found) :
    ∃ node, nodes.deref found = .ok node := by
  cases pointer with
  | some pointer =>
      cases isFound
      exact deref_registered (isThere pointer rfl)
  | none =>
      cases isDefault : nodes.defaultHandler with
      | none =>
          rw [isDefault] at isFound
          cases isFound
      | some handler =>
          rw [isDefault] at isFound
          cases isFound
          exact ⟨_, rfl⟩

theorem Sane.onRequest (sane : Sane state) (noneAsked : state.asked = []) (undecided : state.decision = none)
    {request : Message} (isRequest : IsRequest request) (memory : Bool) :
    Kept (state.onRequest request memory) := by
  have nothing {p : Decision → Prop} (decision : Decision) (isDecision : state.decision = some decision) :
      p decision := by
    rw [undecided] at isDecision
    cases isDecision
  obtain ⟨pointer, finds, isThere⟩ := findNode_ok isRequest state.nodes.handlers
  obtain ⟨code, isCode⟩ := getCode_ok isRequest
  obtain ⟨datagram, accepted⟩ := id isRequest
  unfold RequestRun.onRequest
  rw [finds, ok_bind]
  cases isFound : (pointer.map FoundHandler.registered).or (state.nodes.defaultHandler.map .default) with
  | none =>
      obtain ⟨response, responds, -⟩ := createResponse_ok accepted codeNotFound
      dsimp only
      rw [responds, ok_bind]
      exact ⟨_, rfl, sane.finish nothing⟩
  | some found =>
      obtain ⟨node, isNode⟩ := deref_found isThere isFound
      dsimp only
      rw [isNode, ok_bind, isCode, ok_bind]
      split
      · obtain ⟨response, responds⟩ := respond_ok accepted (.code codeMethodNotAllowed.toNat)
        rw [responds, ok_bind]
        exact ⟨_, rfl, sane.finish nothing⟩
      · refine sane.ask nothing isRequest ⟨node, isNode⟩ memory ?_
        intro filter others first
        have numbered := sane.numbered
        rw [first] at numbered ⊢
        rw [noneAsked]
        exact .first numbered

/-- What is decided at once. -/
theorem outcome_of_respond {request : Message} {result : HandlerResult} {response : Option Message}
    (responds : respond request result = .ok response) {responder : Bool}
    (atOnce : result = .failed .wouldBlock → responder = false) :
    Decision.outcome ⟨request, result, responder⟩ = .ok ⟨response, true⟩ := by
  unfold Decision.outcome
  split
  · rename_i wouldBlock
    change result = _ at wouldBlock
    rw [wouldBlock] at responds
    cases responds
    rw [atOnce wouldBlock]
    rfl
  · rw [responds, ok_bind]

/-- A result that is answered ends the request. -/
theorem Sane.respond (sane : Sane state) {request : Message} (isRequest : IsRequest request)
    {result : HandlerResult} {responder : Bool}
    (isDecision : state.decision = some ⟨request, result, responder⟩)
    (atOnce : result = .failed .wouldBlock → responder = false) :
    Kept (do .ok (state.finish (← RequestHandlers.respond request result) true)) := by
  obtain ⟨datagram, accepted⟩ := isRequest
  obtain ⟨response, responds⟩ := respond_ok accepted result
  rw [responds, ok_bind]
  refine ⟨_, rfl, sane.finish fun decision isDecision' _ => ?_⟩
  rw [isDecision] at isDecision'
  cases isDecision'
  exact outcome_of_respond responds atOnce

theorem Sound.filterReturns (sound : Sound state) {result : HandlerResult} {memory : Bool}
    (permits : state.Permits (.filterReturns result memory)) : Kept (state.filterReturns result memory) := by
  have standing := sound.standing
  unfold Standing at standing
  unfold RequestRun.filterReturns
  cases isStage : state.stage with
  | idle | handling => exact ⟨state, rfl, sound⟩
  | filtering request found filter flags =>
      rw [isStage] at standing
      obtain ⟨isRequest, walk⟩ := standing
      have sane (stage : RequestStage η) :
          Sane { state with stage := stage, decision := some ⟨request, result, false⟩ } :=
        ⟨sound.numbered, sound.own, sound.once⟩
      cases result with
      | success =>
          simp only [Permits, isStage] at permits
          obtain ⟨⟨entry, isEntry⟩, isNode⟩ := permits
          dsimp only
          rw [isEntry]
          refine (sane _).ask ?_ isRequest isNode memory fun filter others next => walk.next next
          intro decision isDecision
          cases isDecision
          rfl
      | response | code | failed =>
          exact (sane _).respond isRequest rfl fun _ => rfl

theorem Sound.handlerReturns (sound : Sound state) {result : HandlerResult} (some_ : result ≠ .success)
    (permits : state.Permits (.handlerReturns result)) : Kept (state.handlerReturns result) := by
  have standing := sound.standing
  unfold Standing at standing
  unfold RequestRun.handlerReturns
  cases isStage : state.stage with
  | idle | filtering => exact ⟨state, rfl, sound⟩
  | handling request found handler responder =>
      rw [isStage] at standing
      have sane (stage : RequestStage η) :
          Sane { state with stage := stage, decision := some ⟨request, result, responder⟩ } :=
        ⟨sound.numbered, sound.own, sound.once⟩
      dsimp only
      rw [assert_of (by simpa using some_), ok_bind]
      by_cases wouldBlock : result = .failed .wouldBlock
      · subst wouldBlock
        simp only [Permits, isStage] at permits
        obtain ⟨node, isNode, flag⟩ := permits
        dsimp only
        rw [isNode, ok_bind]
        refine ⟨_, rfl, (sane _).finish fun decision isDecision _ => ?_⟩
        cases isDecision
        simp [Decision.outcome, ← flag]
      · have respond :=
          (sane (.handling request found handler responder)).respond standing rfl fun is => absurd is wouldBlock
        split
        · exact absurd rfl wouldBlock
        · exact respond

theorem Sound.call [DecidableEq η] [DecidableEq φ] (sound : Sound state) {call : NodeCall η φ}
    (comes : state.Comes (.call call)) : Sound { state with nodes := state.nodes.call call } := by
  obtain ⟨change, own⟩ := call_changes sound.own comes
  have standing := sound.standing
  refine ⟨⟨sound.numbered.change change, own, sound.once⟩, ?_, sound.decided⟩
  unfold Standing at standing ⊢
  cases isStage : state.stage with
  | idle => trivial
  | filtering request found filter flags =>
      rw [isStage] at standing
      exact ⟨standing.1, standing.2.change change⟩
  | handling request found handler responder =>
      rw [isStage] at standing
      exact standing

theorem Sound.step [DecidableEq η] [DecidableEq φ] {step : RequestStep η φ} (sound : Sound state)
    (comes : state.Comes step) (permits : state.Permits step) : Kept (state.step step) := by
  cases step with
  | call call => exact ⟨_, rfl, sound.call comes⟩
  | receive request memory =>
      have sane : Sane { state with asked := [], decision := none, outcome := none } :=
        ⟨sound.numbered, sound.own, List.nodup_nil⟩
      exact sane.onRequest rfl rfl comes.2 memory
  | filterReturns result memory => exact sound.filterReturns permits
  | handlerReturns result => exact sound.handlerReturns comes.2 permits

end Steps

/-- What is expected of an endpoint: each registration of a filter is asked once at most for a request, and a
    request that is done with ends with what its last filter or its handler decided. -/
structure Serves (state : RequestRun η φ) : Prop where
  once : state.asked.Nodup
  decided : Decided state

section Exactness

variable {state state' : RequestRun η φ}

/-- Whatever comes next, the node of the handler is read. -/
theorem ask_reads {request : Message} {found : FoundHandler η} {memory : Bool} {entries : List (Entry NodePointer φ)}
    (goes : state.ask request found memory entries = .ok state') : ∃ node, state.nodes.deref found = .ok node := by
  cases entries with
  | nil =>
      obtain ⟨node, isNode, -⟩ := bind_ok goes
      exact ⟨node, isNode⟩
  | cons filter others =>
      obtain ⟨node, isNode, -⟩ := bind_ok goes
      exact ⟨node, isNode⟩

theorem filterReturns_permits {result : HandlerResult} {memory : Bool}
    (goes : state.filterReturns result memory = .ok state') : state.Permits (.filterReturns result memory) := by
  cases result with
  | response | code | failed => trivial
  | success =>
      unfold Permits
      cases isStage : state.stage with
      | idle | handling => trivial
      | filtering request found filter flags =>
          simp only [RequestRun.filterReturns, isStage] at goes
          cases isThere : find state.nodes.requestFilters filter with
          | none =>
              rw [isThere] at goes
              cases goes
          | some entry =>
              rw [isThere] at goes
              have reads := @ask_reads _ _ _ _ _ _ _ _ goes
              exact ⟨⟨entry, isThere⟩, reads⟩

theorem handlerReturns_permits {result : HandlerResult} (goes : state.handlerReturns result = .ok state')
    (decided : Decided state') : state.Permits (.handlerReturns result) := by
  by_cases wouldBlock : result = .failed .wouldBlock
  · subst wouldBlock
    unfold Permits
    cases isStage : state.stage with
    | idle | filtering => trivial
    | handling request found handler responder =>
        simp only [RequestRun.handlerReturns, isStage] at goes
        obtain ⟨_, -, goes⟩ := bind_ok goes
        obtain ⟨node, isNode, goes⟩ := bind_ok goes
        cases goes
        obtain ⟨outcome, isOutcome, isDecided⟩ := decided rfl _ rfl
        cases isOutcome
        have same := (RequestOutcome.mk.inj (Except.ok.inj (isDecided (nofun)))).2
        refine ⟨node, isNode, ?_⟩
        cases responder with
        | true => simpa using same
        | false => simpa using same
  · cases result with
    | response | code | success => trivial
    | failed error =>
        cases error with
        | wouldBlock => exact absurd rfl wouldBlock
        | _ => trivial

theorem permits_of_serves [DecidableEq η] [DecidableEq φ] {next : RequestStep η φ} (goes : state.step next = .ok state')
    (serves : Serves state') : state.Permits next := by
  cases next with
  | call | receive => trivial
  | filterReturns result memory => exact filterReturns_permits goes
  | handlerReturns result => exact handlerReturns_permits goes serves.decided

end Exactness

/-- Handlers and filters may register and unregister whatever they want, as long as the nodes that the endpoint
    stands at are there when they return, and only then. -/
theorem removed_nodes_unread [DecidableEq η] [DecidableEq φ] {steps : List (RequestStep η φ)}
    (follows : Follows step (fun state step => Comes state step ∧ Permits state step) create steps) :
    ∃ state, create.run steps = .ok state ∧ Serves state ∧ ∀ next, state.Comes next →
      ((∃ state', state.step next = .ok state' ∧ Serves state') ↔ state.Permits next) := by
  have sound : Sound (create : RequestRun η φ) :=
    ⟨⟨⟨List.nodup_nil, List.nodup_nil, fun _ is => (nomatch is)⟩, fun _ is => (nomatch is), List.nodup_nil⟩, trivial,
      fun _ _ isDecision => (nomatch isDecision)⟩
  obtain ⟨state, runs, sound'⟩ := follows.run (fun state step sound is => sound.step is.1 is.2) sound
  refine ⟨state, runs, ⟨sound'.once, sound'.decided⟩, fun next comes => ⟨?_, ?_⟩⟩
  · rintro ⟨state', goes, serves⟩
    exact permits_of_serves goes serves
  · intro permits
    obtain ⟨state', goes, sound''⟩ := sound'.step comes permits
    exact ⟨state', goes, sound''.once, sound''.decided⟩

/-- A GET request for `a`. -/
def getRequest : Message := ⟨[0x40, 0x01, 0, 7, 0xB1, 0x61], 6, 0⟩

theorem getRequest_accepted : IsRequest getRequest := ⟨getRequest.data, by decide⟩

/-- A filter unregisters another one and registers a new one, which is asked too, and the handler unregisters a
    filter that was asked. -/
def meddlingSteps : List (RequestStep Nat Nat) :=
  [.call (.registerRequestHandler [slash, 0x61] 0x1F 1), .call (.registerRequestFilter 10),
    .call (.registerRequestFilterNode 0 11), .receive getRequest true, .call (.unregisterRequestFilter 11),
    .call (.registerRequestFilter 12), .filterReturns .success true, .filterReturns .success true,
    .call (.unregisterRequestFilter 12), .handlerReturns (.failed .wouldBlock)]

theorem meddlingSteps_follow :
    Follows step (fun state step => Comes state step ∧ Permits state step) create meddlingSteps := by
  refine .cons rfl ⟨trivial, trivial⟩ (.cons rfl ⟨trivial, trivial⟩ ?_)
  refine .cons rfl ⟨fun entry is => List.mem_singleton.mp is ▸ nofun, trivial⟩ ?_
  refine .cons rfl ⟨⟨rfl, getRequest_accepted⟩, trivial⟩ ?_
  refine .cons rfl ⟨trivial, trivial⟩ (.cons rfl ⟨trivial, trivial⟩ ?_)
  refine .cons rfl ⟨rfl, ⟨_, rfl⟩, _, rfl⟩ (.cons rfl ⟨rfl, ⟨_, rfl⟩, _, rfl⟩ ?_)
  exact .cons rfl ⟨trivial, trivial⟩ (.cons rfl ⟨⟨rfl, by decide⟩, _, rfl, rfl⟩ trivial)

theorem removed_nodes_unread_meddling :
    ∃ state, create.run meddlingSteps = .ok state ∧ Serves state ∧ state.asked = [1, 3] := by
  obtain ⟨state, runs, serves, -⟩ := @removed_nodes_unread Nat Nat _ _ _ meddlingSteps_follow
  refine ⟨state, runs, serves, ?_⟩
  cases runs
  rfl

/-- A filter that unregisters itself, and lets the request through, is read after it was removed. So is a handler that
    unregisters itself and would block. -/
theorem unregistered_node_read : ∃ filterSteps handlerSteps : List (RequestStep Nat Nat),
    Follows step Comes create filterSteps ∧ create.run filterSteps = .error .undefined ∧
    Follows step Comes create handlerSteps ∧ create.run handlerSteps = .error .undefined := by
  refine ⟨[.call (.registerRequestHandler [slash, 0x61] 0xF 1), .call (.registerRequestFilter 10),
    .receive getRequest true, .call (.unregisterRequestFilter 10), .filterReturns .success true],
    [.call (.registerRequestHandler [slash, 0x61] 0x1F 1), .receive getRequest true,
      .call (.unregisterRequestHandler none (some 1)), .handlerReturns (.failed .wouldBlock)], ?_, rfl, ?_, rfl⟩
  · refine .cons rfl trivial (.cons rfl trivial (.cons rfl ⟨rfl, getRequest_accepted⟩ (.cons rfl trivial ?_)))
    exact ⟨rfl, fun _ reads => (nomatch reads)⟩
  · refine .cons rfl trivial (.cons rfl ⟨rfl, getRequest_accepted⟩ (.cons rfl trivial ?_))
    exact ⟨⟨rfl, by decide⟩, fun _ reads => (nomatch reads)⟩

end RequestRun

end GoldenGate.Coap
