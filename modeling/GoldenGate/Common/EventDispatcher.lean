import GoldenGate.Common.Result
import GoldenGate.Lib.Memory
import Mathlib.Data.List.Nodup

/-! # Event dispatchers

The embedding of `gg_event_dispatcher.c`. A listener that is called may add and remove
listeners and dispatch another event, so `OnEvent` is cut at its call-outs. The dispatches
that wait for a listener are a stack. Each keeps an account of who was called and of who was
registered whenever it looked, for the comparison with what it should do.
-/

namespace GoldenGate

open Memory

/-- `GG_EventDispatcher_ListenerNode`. -/
structure ListenerNode (Listener : Type) where
  listener : Listener
  events : Option (List UInt32)
  sequenceNumber : UInt32
  deriving Repr, DecidableEq

/-- `GG_EventDispatcher`. -/
structure EventDispatcher (Listener : Type) where
  listenerContexts : List (ListenerNode Listener)
  sequenceNumber : UInt32
  deriving Repr, DecidableEq

variable {Listener : Type}

/-- The test of `GG_EventDispatcher_Notify_Listener`: a node with no array of events wants all. -/
def ListenerNode.Wants (node : ListenerNode Listener) (type : UInt32) : Prop :=
  ∀ events ∈ node.events, type ∈ events

instance (node : ListenerNode Listener) (type : UInt32) : Decidable (node.Wants type) :=
  inferInstanceAs (Decidable (∀ events ∈ node.events, type ∈ events))

namespace EventDispatcher

/-- `GG_EventDispatcher_Create`. -/
def create : EventDispatcher Listener := ⟨[], 1⟩

/-- The walk of `GG_EventDispatcher_OnEvent` to the next node that has not been visited. -/
def walk (lastNotified lastNode : UInt32) : List (ListenerNode Listener) → Option (ListenerNode Listener)
  | [] => none
  | node :: nodes =>
      if node.sequenceNumber ≥ lastNode then none
      else if node.sequenceNumber > lastNotified then some node
      else walk lastNotified lastNode nodes

variable [DecidableEq Listener]

/-- `GG_EventDispatcher_FindNode`. -/
def findNode (self : EventDispatcher Listener) (listener : Listener) : Option (ListenerNode Listener) :=
  self.listenerContexts.find? (·.listener = listener)

/-- `GG_EventDispatcher_AddListener`. There is memory for the node, or it comes from the caller. -/
def addListener (self : EventDispatcher Listener) (listener : Listener) (events : Option (List UInt32))
    (hasMemory : Bool) : Access (EventDispatcher Listener × Except Error Unit) := do
  assert events.isSome
  assert (events ≠ some [])
  match self.findNode listener with
  | some _ => return (self, .error .invalidParameters)
  | none =>
      if !hasMemory then return (self, .error .outOfMemory)
      let node := ⟨listener, events, self.sequenceNumber⟩
      return (⟨self.listenerContexts ++ [node], self.sequenceNumber + 1⟩, .ok ())

/-- `GG_EventDispatcher_RemoveListener`. -/
def removeListener (self : EventDispatcher Listener) (listener : Listener) :
    EventDispatcher Listener × Except Error Unit :=
  match self.findNode listener with
  | some node => ({ self with listenerContexts := self.listenerContexts.erase node }, .ok ())
  | none => (self, .error .invalidParameters)

end EventDispatcher

/-! ## Dispatches -/

/-- A call of `GG_EventDispatcher_OnEvent`. The last three fields are its account: who was
    registered in the beginning, who was registered each time the walk began after a call, and
    who was called. -/
structure Dispatch (Listener : Type) where
  type : UInt32
  lastNotified : UInt32
  lastNode : UInt32
  start : List (ListenerNode Listener)
  seen : List (List (ListenerNode Listener))
  called : List (ListenerNode Listener)
  deriving Repr, DecidableEq

/-- Where the loop stands: it has called a listener, or it has ended. -/
inductive Turn (Listener : Type) where
  | calls (dispatch : Dispatch Listener)
  | ends (dispatch : Dispatch Listener)
  deriving Repr, DecidableEq

namespace Dispatch

/-- The loop of `GG_EventDispatcher_OnEvent` until it calls a listener or ends. -/
def loop (registered : List (ListenerNode Listener)) : Nat → Dispatch Listener → Access (Turn Listener)
  | 0, _ => .error .diverges
  | turns + 1, self =>
      match EventDispatcher.walk self.lastNotified self.lastNode registered with
      | none => return .ends self
      | some node =>
          let self := { self with lastNotified := node.sequenceNumber }
          if node.Wants self.type then return .calls { self with called := self.called ++ [node] }
          else self.loop registered turns

/-- The loop begins, or goes on after a call. One turn for each node is enough. -/
def resume (self : Dispatch Listener) (registered : List (ListenerNode Listener)) : Access (Turn Listener) :=
  loop registered (registered.length + 1) { self with seen := self.seen ++ [registered] }

end Dispatch

/-! ## Runs -/

/-- A dispatcher in the middle of a run, with the dispatches in progress, the innermost first,
    and those that have ended. -/
structure EventRun (Listener : Type) where
  dispatcher : EventDispatcher Listener
  dispatches : List (Dispatch Listener)
  ended : List (Dispatch Listener)
  registrations : Nat
  deriving Repr, DecidableEq

inductive EventStep (Listener : Type) where
  | add (listener : Listener) (events : Option (List UInt32)) (hasMemory : Bool)
  | remove (listener : Listener)
  | dispatch (type : UInt32)
  /-- The listener that the innermost dispatch has called returns. -/
  | resume
  deriving Repr, DecidableEq

namespace EventRun

variable [DecidableEq Listener]

def create : EventRun Listener := ⟨.create, [], [], 0⟩

/-- A dispatch that has called a listener waits; one that has ended is gone. -/
def settle (self : EventRun Listener) (others : List (Dispatch Listener)) : Turn Listener → EventRun Listener
  | .calls dispatch => { self with dispatches := dispatch :: others }
  | .ends dispatch => { self with dispatches := others, ended := self.ended ++ [dispatch] }

def step (self : EventRun Listener) : EventStep Listener → Access (EventRun Listener)
  | .add listener events hasMemory => do
      let (dispatcher, result) ← self.dispatcher.addListener listener events hasMemory
      let registrations := if result.isOk then self.registrations + 1 else self.registrations
      return { self with dispatcher := dispatcher, registrations := registrations }
  | .remove listener => return { self with dispatcher := (self.dispatcher.removeListener listener).1 }
  | .dispatch type => do
      let registered := self.dispatcher.listenerContexts
      let turn ← Dispatch.resume ⟨type, 0, self.dispatcher.sequenceNumber, registered, [], []⟩ registered
      return self.settle self.dispatches turn
  | .resume =>
      match self.dispatches with
      | [] => return self
      | dispatch :: others => do
          let turn ← dispatch.resume self.dispatcher.listenerContexts
          return self.settle others turn

def run (self : EventRun Listener) (steps : List (EventStep Listener)) : Access (EventRun Listener) :=
  steps.foldlM step self

end EventRun

/-! ## Who has to be called -/

variable [DecidableEq Listener]

/-- Of the nodes in order, those that are called: the ones that want the event and are
    registered when it is their turn, where every call is followed by another view of who is
    registered. -/
def inTurn (type : UInt32) : List (ListenerNode Listener) → List (List (ListenerNode Listener)) →
    List (ListenerNode Listener)
  | [], _ => []
  | _ :: _, [] => []
  | node :: nodes, registered :: later =>
      if node.Wants type ∧ node ∈ registered then node :: inTurn type nodes later
      else inTurn type nodes (registered :: later)

/-- Nobody is called twice, and nobody out of order. -/
theorem inTurn_sublist (type : UInt32) (nodes : List (ListenerNode Listener))
    (seen : List (List (ListenerNode Listener))) : (inTurn type nodes seen).Sublist nodes := by
  induction nodes generalizing seen with
  | nil => exact List.Sublist.refl _
  | cons node nodes ih =>
      cases seen with
      | nil => exact List.nil_sublist _
      | cons registered later =>
          unfold inTurn
          split
          · exact (ih later).cons_cons node
          · exact (ih _).cons node

@[simp] theorem inTurn_nil (type : UInt32) (nodes : List (ListenerNode Listener)) : inTurn type nodes [] = [] := by
  cases nodes <;> rfl

/-- The turn of those who are not registered passes. -/
theorem inTurn_skip {type : UInt32} {absent : List (ListenerNode Listener)} {registered : List (ListenerNode Listener)}
    (notThere : ∀ node ∈ absent, node ∉ registered) (nodes : List (ListenerNode Listener))
    (later : List (List (ListenerNode Listener))) :
    inTurn type (absent ++ nodes) (registered :: later) = inTurn type nodes (registered :: later) := by
  induction absent with
  | nil => rfl
  | cons node absent ih =>
      rw [List.cons_append, inTurn, if_neg (fun both => notThere node List.mem_cons_self both.2)]
      exact ih (fun other member => notThere other (List.mem_cons_of_mem _ member))

end GoldenGate
