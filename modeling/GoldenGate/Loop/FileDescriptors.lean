import Mathlib.Data.List.Nodup
import Mathlib.Data.List.Infix
import Mathlib.Logic.Function.Basic

/-! # The file descriptors of a loop

The embedding of how `gg_bsd_select_loop.c` calls the handlers of file descriptors. A handler that is called may add and
remove handlers, itself among them, and change their descriptors and masks. Still each handler is called at most
once, while it is registered, and none is missed. The sets of `select` have places for some descriptors only, so a
handler that monitors anything is taken to have one of these.
-/

namespace GoldenGate.SelectLoop

/-- `GG_EVENT_FLAG_FD_CAN_READ`, `GG_EVENT_FLAG_FD_CAN_WRITE` and `GG_EVENT_FLAG_FD_ERROR`. -/
def canRead : UInt32 := 1
def canWrite : UInt32 := 2
def fdError : UInt32 := 4

/-- `FD_SETSIZE`. -/
def fdSetSize : Int := 1024

/-- A descriptor with a place in a set. -/
def HasPlace (fd : Int) : Prop := 0 ≤ fd ∧ fd < fdSetSize

/-- `GG_LoopFileDescriptorEventHandler`, without its node. -/
structure Handler where
  fd : Int
  eventMask : UInt32
  eventFlags : UInt32
  hasPlace : eventMask ≠ 0 → HasPlace fd

/-- `FD_SET`. -/
def fdSet (fd : Int) (_hasPlace : HasPlace fd) (set : List Int) : List Int := fd :: set

/-- `FD_ISSET`. -/
def fdIsSet (fd : Int) (_hasPlace : HasPlace fd) (set : List Int) : Prop := fd ∈ set

instance (fd : Int) (hasPlace : HasPlace fd) (set : List Int) : Decidable (fdIsSet fd hasPlace set) :=
  inferInstanceAs (Decidable (fd ∈ set))

/-- The sets of `select`. -/
structure FdSets where
  readSet : List Int
  writeSet : List Int
  exceptSet : List Int
  deriving Repr, DecidableEq

theorem Handler.hasPlace_of_asks (self : Handler) {bit : UInt32} (asks : self.eventMask &&& bit ≠ 0) : HasPlace self.fd := by
  apply self.hasPlace
  intro none_
  rw [none_, UInt32.zero_and] at asks
  exact asks rfl

/-- A handler is added to a set if it monitors its condition. -/
def Handler.addTo (self : Handler) (bit : UInt32) (set : List Int) : List Int :=
  if asks : self.eventMask &&& bit ≠ 0 then fdSet self.fd (self.hasPlace_of_asks asks) set else set

/-- The conditions that a handler monitors are added to the sets. -/
def FdSets.monitor (sets : FdSets) (handler : Handler) : FdSets :=
  if handler.fd ≥ 0 then
    { readSet := handler.addTo canRead sets.readSet
      writeSet := handler.addTo canWrite sets.writeSet
      exceptSet := handler.addTo fdError sets.exceptSet }
  else sets

/-- What `select` may leave of its sets. -/
structure Selected (sets : FdSets) where
  left : FdSets
  readSet : left.readSet ⊆ sets.readSet
  writeSet : left.writeSet ⊆ sets.writeSet
  exceptSet : left.exceptSet ⊆ sets.exceptSet

/-- What a handler may do to the loop while it is called. -/
inductive Action where
  | add (handler : Nat)
  | remove (handler : Nat)
  | set (handler : Nat) (fd : Int) (eventMask : UInt32) (hasPlace : eventMask ≠ 0 → HasPlace fd)

/-- The handlers that the loop monitors, and those that wait in the queue of `GG_Loop_MonitorFileDescriptors`, each by
    its address. -/
structure Loop (ω : Type) where
  handlers : Nat → Handler
  monitorHandlers : List Nat
  handlerQueue : List Nat
  world : ω

/-- What the handlers do when they are called with some flags. -/
abbrev OnEvent (ω : Type) := Nat → UInt32 → ω → ω × List Action

inductive Event where
  | call (handler : Nat) (eventFlags : UInt32)
  | action (action : Action)

variable {ω : Type}

namespace Loop

/-- The sets that `select` is called with. -/
def fdSets (self : Loop ω) : FdSets :=
  self.monitorHandlers.foldl (fun sets address => sets.monitor (self.handlers address)) ⟨[], [], []⟩

/-- `GG_LINKED_LIST_NODE_REMOVE`, of a node that is in one of the lists or in none. -/
def unlink (self : Loop ω) (handler : Nat) : Loop ω :=
  { self with
    monitorHandlers := self.monitorHandlers.erase handler
    handlerQueue := self.handlerQueue.erase handler }

def addFileDescriptorHandler (self : Loop ω) (handler : Nat) : Loop ω :=
  let self := self.unlink handler
  { self with monitorHandlers := self.monitorHandlers ++ [handler] }

def removeFileDescriptorHandler (self : Loop ω) (handler : Nat) : Loop ω := self.unlink handler

def perform (self : Loop ω) : Action → Loop ω
  | .add handler => self.addFileDescriptorHandler handler
  | .remove handler => self.removeFileDescriptorHandler handler
  | .set handler fd eventMask hasPlace =>
      let changed : Handler := ⟨fd, eventMask, (self.handlers handler).eventFlags, hasPlace⟩
      { self with handlers := Function.update self.handlers handler changed }

/-- Which conditions are true, with the sets that `select` has left. -/
def eventFlags (sets : FdSets) (fd : Int) (hasPlace : HasPlace fd) : UInt32 :=
  (if fdIsSet fd hasPlace sets.readSet then canRead else 0) ||| (if fdIsSet fd hasPlace sets.writeSet then canWrite else 0) |||
    (if fdIsSet fd hasPlace sets.exceptSet then fdError else 0)

/-- The flags that a handler is called with, or zero. -/
def flagsOf (sets : FdSets) (handler : Handler) : UInt32 :=
  if none_ : handler.eventMask = 0 then 0 else eventFlags sets handler.fd (handler.hasPlace none_)

theorem flagsOf_congr (sets : FdSets) {handler handler' : Handler} (fd : handler.fd = handler'.fd)
    (eventMask : handler.eventMask = handler'.eventMask) : flagsOf sets handler = flagsOf sets handler' := by
  cases handler
  cases handler'
  cases fd
  cases eventMask
  rfl

/-- The handler is moved back to the list, and called if there is a match. -/
def process (onEvent : OnEvent ω) (sets : FdSets) (self : Loop ω) (head : Nat) (queue : List Nat) : Loop ω × List Event :=
  let self := { self with handlerQueue := queue, monitorHandlers := self.monitorHandlers ++ [head] }
  let flags := flagsOf sets (self.handlers head)
  if flags = 0 then (self, [])
  else
    let handler := { self.handlers head with eventFlags := flags }
    let (world, actions) := onEvent head flags self.world
    (actions.foldl perform { self with handlers := Function.update self.handlers head handler, world := world },
      .call head flags :: actions.map .action)

/-! ## The actions of a handler -/

/-- The handlers in the lists. -/
def linked (self : Loop ω) : List Nat := self.monitorHandlers ++ self.handlerQueue

end Loop

def Action.handler : Action → Nat
  | add handler => handler
  | remove handler => handler
  | set handler _ _ _ => handler

/-- The handlers that are registered after an action. -/
def Action.registered (registered : Nat → Prop) : Action → Nat → Prop
  | add handler, other => other = handler ∨ registered other
  | remove handler, other => other ≠ handler ∧ registered other
  | set _ _ _ _, other => registered other

def Event.registered (registered : Nat → Prop) : Event → Nat → Prop
  | .call _ _ => registered
  | .action taken => taken.registered registered

/-- The handlers that are registered after some events. -/
def registeredAfter (registered : Nat → Prop) (events : List Event) : Nat → Prop :=
  events.foldl Event.registered registered

namespace Loop

theorem mem_linked_unlink {self : Loop ω} (nodup : self.linked.Nodup) (handler other : Nat) :
    other ∈ (self.unlink handler).linked ↔ other ≠ handler ∧ other ∈ self.linked := by
  obtain ⟨monitors, queue, -⟩ := List.nodup_append'.mp nodup
  rw [linked, linked, List.mem_append, List.mem_append, unlink, monitors.mem_erase_iff, queue.mem_erase_iff]
  tauto

theorem nodup_unlink {self : Loop ω} (nodup : self.linked.Nodup) (handler : Nat) : (self.unlink handler).linked.Nodup :=
  nodup.sublist ((List.erase_sublist).append List.erase_sublist)

theorem perform_linked {self : Loop ω} (nodup : self.linked.Nodup) (action : Action) :
    (self.perform action).linked.Nodup ∧
      ∀ other, other ∈ (self.perform action).linked ↔ action.registered (· ∈ self.linked) other := by
  cases action with
  | add handler =>
      have moved : (self.perform (.add handler)).linked.Perm (handler :: (self.unlink handler).linked) := by
        change (_ ++ [handler] ++ _).Perm (handler :: (_ ++ _))
        rw [List.append_assoc]
        exact List.perm_middle
      constructor
      · rw [moved.nodup_iff, List.nodup_cons, mem_linked_unlink nodup]
        exact ⟨fun isIn => isIn.1 rfl, nodup_unlink nodup handler⟩
      · intro other
        rw [moved.mem_iff, List.mem_cons, mem_linked_unlink nodup]
        change _ ↔ other = handler ∨ other ∈ self.linked
        tauto
  | remove handler => exact ⟨nodup_unlink nodup handler, mem_linked_unlink nodup handler⟩
  | set => exact ⟨nodup, fun _ => Iff.rfl⟩

/-- The queue only loses handlers, and only those that an action is about. -/
theorem perform_handlerQueue (self : Loop ω) (action : Action) :
    (self.perform action).handlerQueue.Sublist self.handlerQueue ∧
      ∀ other, other ≠ action.handler → (other ∈ (self.perform action).handlerQueue ↔ other ∈ self.handlerQueue) := by
  cases action with
  | add handler | remove handler => exact ⟨List.erase_sublist, fun other ne => List.mem_erase_of_ne ne⟩
  | set => exact ⟨List.Sublist.refl _, fun _ _ => Iff.rfl⟩

theorem performs_handlerQueue (actions : List Action) (self : Loop ω) :
    (actions.foldl perform self).handlerQueue.Sublist self.handlerQueue := by
  induction actions generalizing self with
  | nil => exact List.Sublist.refl _
  | cons action actions ih => exact (ih (self.perform action)).trans (perform_handlerQueue self action).1

theorem perform_handlers (self : Loop ω) (action : Action) {other : Nat} (ne : other ≠ action.handler) :
    (self.perform action).handlers other = self.handlers other := by
  cases action with
  | add | remove => rfl
  | set => exact Function.update_of_ne ne ..

/-- What is known of a handler after some actions that are not about it. -/
structure Keeps (before after : Loop ω) (handler : Nat) : Prop where
  queued : handler ∈ after.handlerQueue ↔ handler ∈ before.handlerQueue
  same : (after.handlers handler).fd = (before.handlers handler).fd ∧
    (after.handlers handler).eventMask = (before.handlers handler).eventMask

theorem performs (actions : List Action) {self : Loop ω} (nodup : self.linked.Nodup) :
    let after := actions.foldl perform self
    after.linked.Nodup ∧
      (∀ other, other ∈ after.linked ↔ registeredAfter (· ∈ self.linked) (actions.map .action) other) ∧
      ∀ other, (∀ action ∈ actions, other ≠ action.handler) → Keeps self after other := by
  induction actions generalizing self with
  | nil => exact ⟨nodup, fun _ => Iff.rfl, fun _ _ => ⟨Iff.rfl, rfl, rfl⟩⟩
  | cons action actions ih =>
      obtain ⟨nodup', linked'⟩ := perform_linked nodup action
      obtain ⟨-, kept⟩ := perform_handlerQueue self action
      obtain ⟨nodup'', registered, keeps⟩ := ih nodup'
      refine ⟨nodup'', ?_, ?_⟩
      · intro other
        have same : (· ∈ (self.perform action).linked) = action.registered (· ∈ self.linked) :=
          funext fun other => propext (linked' other)
        rw [List.foldl_cons, registered, same, List.map_cons, registeredAfter, registeredAfter, List.foldl_cons]
        rfl
      · intro other notAbout
        have ne := notAbout action List.mem_cons_self
        have rest := keeps other fun action member => notAbout action (List.mem_cons_of_mem _ member)
        have data := perform_handlers self action ne
        refine ⟨rest.queued.trans (kept other ne), ?_, ?_⟩
        · rw [List.foldl_cons, rest.same.1, data]
        · rw [List.foldl_cons, rest.same.2, data]

/-! ## The pass over the handlers -/

/-- What the call of one handler, or its turn without a call, comes to. -/
structure Turn (sets : FdSets) (before : Loop ω) (head : Nat) (queue : List Nat) (after : Loop ω) (events : List Event) :
    Prop where
  fewer : after.handlerQueue.Sublist queue
  nodup : after.linked.Nodup
  registered : ∀ other, other ∈ after.linked ↔ registeredAfter (· ∈ before.linked) events other
  keeps : ∀ other, (∀ action, .action action ∈ events → other ≠ action.handler) →
    (other ∈ after.handlerQueue ↔ other ∈ queue) ∧ (after.handlers other).fd = (before.handlers other).fd ∧
      (after.handlers other).eventMask = (before.handlers other).eventMask
  calls : (flagsOf sets (before.handlers head) = 0 ∧ events = []) ∨
    (flagsOf sets (before.handlers head) ≠ 0 ∧
      ∃ actions : List Action, events = .call head (flagsOf sets (before.handlers head)) :: actions.map .action)

theorem process_cases (onEvent : OnEvent ω) (sets : FdSets) (self : Loop ω) (head : Nat) (queue : List Nat) :
    (flagsOf sets (self.handlers head) = 0 ∧ self.process onEvent sets head queue =
      ({ self with handlerQueue := queue, monitorHandlers := self.monitorHandlers ++ [head] }, [])) ∨
    (flagsOf sets (self.handlers head) ≠ 0 ∧ ∃ handlers world actions,
      self.process onEvent sets head queue =
        (List.foldl perform ⟨handlers, self.monitorHandlers ++ [head], queue, world⟩ actions,
          .call head (flagsOf sets (self.handlers head)) :: actions.map .action) ∧
        ∀ other, (handlers other).fd = (self.handlers other).fd ∧
          (handlers other).eventMask = (self.handlers other).eventMask) := by
  by_cases none_ : flagsOf sets (self.handlers head) = 0
  · exact .inl ⟨none_, if_pos none_⟩
  · refine .inr ⟨none_, _, _, _, if_neg none_, ?_⟩
    intro other
    by_cases own : other = head
    · subst own
      rw [Function.update_self]
      exact ⟨rfl, rfl⟩
    · rw [Function.update_of_ne own]
      exact ⟨rfl, rfl⟩

theorem process_handlerQueue (onEvent : OnEvent ω) (sets : FdSets) (self : Loop ω) (head : Nat) (queue : List Nat) :
    (self.process onEvent sets head queue).1.handlerQueue.Sublist queue := by
  obtain ⟨-, goes⟩ | ⟨-, handlers, world, actions, goes, -⟩ := self.process_cases onEvent sets head queue
  · rw [goes]
  · rw [goes]
    exact performs_handlerQueue actions _

theorem process_turn (onEvent : OnEvent ω) (sets : FdSets) {self : Loop ω} {head : Nat} {queue : List Nat}
    (isQueue : self.handlerQueue = head :: queue) (nodup : self.linked.Nodup) :
    Turn sets self head queue (self.process onEvent sets head queue).1 (self.process onEvent sets head queue).2 := by
  have moved : self.monitorHandlers ++ [head] ++ queue = self.linked := by
    rw [linked, isQueue, List.append_assoc]
    rfl
  obtain ⟨none_, goes⟩ | ⟨some_, handlers, world, actions, goes, data⟩ := self.process_cases onEvent sets head queue
  · rw [goes]
    refine ⟨List.Sublist.refl _, ?_, ?_, ?_, .inl ⟨none_, rfl⟩⟩
    · rw [linked, moved]
      exact nodup
    · intro other
      rw [linked, moved]
      rfl
    · exact fun _ _ => ⟨Iff.rfl, rfl, rfl⟩
  · rw [goes]
    have nodupNow : (⟨handlers, self.monitorHandlers ++ [head], queue, world⟩ : Loop ω).linked.Nodup := by
      rw [linked, moved]
      exact nodup
    obtain ⟨nodup', registered, keeps⟩ := performs actions nodupNow
    refine ⟨performs_handlerQueue actions _, nodup', ?_, ?_, .inr ⟨some_, actions, rfl⟩⟩
    · intro other
      rw [registered, linked, moved]
      rfl
    · intro other notAbout
      obtain ⟨queued, fd, eventMask⟩ := keeps other fun action member =>
        notAbout action (List.mem_cons_of_mem _ (List.mem_map_of_mem member))
      exact ⟨queued, fd.trans (data other).1, eventMask.trans (data other).2⟩

/-- The loop over the queue of handlers, which ends because nobody puts a handler into the queue. -/
def notify (onEvent : OnEvent ω) (sets : FdSets) (self : Loop ω) : Loop ω × List Event :=
  match _isQueue : self.handlerQueue with
  | [] => (self, [])
  | head :: queue =>
      let processed := self.process onEvent sets head queue
      let notified := processed.1.notify onEvent sets
      (notified.1, processed.2 ++ notified.2)
  termination_by self.handlerQueue.length
  decreasing_by
    rw [_isQueue]
    exact Nat.lt_succ_of_le (process_handlerQueue onEvent sets self head queue).length_le

/-- `GG_Loop_MonitorFileDescriptors`, with what `select` leaves of the sets, if there is an event. -/
def monitorFileDescriptors (onEvent : OnEvent ω) (select : ∀ sets, Option (Selected sets)) (self : Loop ω) :
    Loop ω × List Event :=
  match select self.fdSets with
  | none => (self, [])
  | some selected => notify onEvent selected.left { self with monitorHandlers := [], handlerQueue := self.monitorHandlers }

/-- A loop that monitors nothing yet. -/
def init (handlers : Nat → Handler) (world : ω) : Loop ω := ⟨handlers, [], [], world⟩

/-- What happens to a loop: something is done to it between the passes, or there is a pass. -/
inductive Step where
  | action (action : Action)
  | monitor (select : ∀ sets, Option (Selected sets))

def step (onEvent : OnEvent ω) (self : Loop ω) : Step → Loop ω
  | .action action => self.perform action
  | .monitor select => (self.monitorFileDescriptors onEvent select).1

def run (onEvent : OnEvent ω) (self : Loop ω) (steps : List Step) : Loop ω := steps.foldl (step onEvent) self

end Loop

/-- The handlers that were called, in order. -/
def called : List Event → List Nat :=
  List.filterMap fun
    | .call handler _ => some handler
    | .action _ => none

namespace Loop

/-- What the loop over the queue comes to. -/
structure Pass (sets : FdSets) (before after : Loop ω) (events : List Event) : Prop where
  once : (called events).Sublist before.handlerQueue
  done : after.handlerQueue = []
  nodup : after.linked.Nodup
  registered : ∀ other, other ∈ after.linked ↔ registeredAfter (· ∈ before.linked) events other
  inTime : ∀ earlier handler flags later, events = earlier ++ .call handler flags :: later →
    registeredAfter (· ∈ before.linked) earlier handler
  notMissed : ∀ other, (∀ action, .action action ∈ events → other ≠ action.handler) → ∀ flags,
    .call other flags ∈ events ↔ other ∈ before.handlerQueue ∧ flags ≠ 0 ∧ flags = flagsOf sets (before.handlers other)

theorem registeredAfter_append (registered : Nat → Prop) (events events' : List Event) :
    registeredAfter registered (events ++ events') = registeredAfter (registeredAfter registered events) events' :=
  List.foldl_append

theorem called_turn {sets : FdSets} {before after : Loop ω} {head : Nat} {queue : List Nat} {events : List Event}
    (turn : Turn sets before head queue after events) : (called events).Sublist [head] := by
  obtain ⟨-, rfl⟩ | ⟨-, actions, rfl⟩ := turn.calls
  · exact List.nil_sublist _
  · have none_ : called (actions.map .action) = [] := by
      rw [called, List.filterMap_map]
      exact List.filterMap_eq_nil_iff.mpr fun _ _ => rfl
    change (head :: called (actions.map .action)).Sublist [head]
    rw [none_]

/-- Only the head is called in its turn, before anything else happens. -/
theorem Turn.first {sets : FdSets} {before after : Loop ω} {head : Nat} {queue : List Nat} {events : List Event}
    (turn : Turn sets before head queue after events) {earlier rest : List Event} {handler : Nat} {flags : UInt32}
    (split : events = earlier ++ .call handler flags :: rest) :
    earlier = [] ∧ handler = head ∧ flags = flagsOf sets (before.handlers head) ∧ flags ≠ 0 := by
  obtain ⟨-, rfl⟩ | ⟨some_, actions, rfl⟩ := turn.calls
  · exact absurd (congrArg List.length split) (by simp)
  · cases earlier with
    | nil =>
        cases split
        exact ⟨rfl, rfl, rfl, some_⟩
    | cons event earlier =>
        have member : Event.call handler flags ∈ actions.map Event.action := by
          rw [(List.cons.inj split).2]
          exact List.mem_append_right _ List.mem_cons_self
        obtain ⟨action, -, is⟩ := List.mem_map.mp member
        cases is

/-- A handler has its turn, and the others have theirs. -/
theorem Turn.pass {sets : FdSets} {before middle after : Loop ω} {head : Nat} {queue : List Nat} {events later : List Event}
    (isQueue : before.handlerQueue = head :: queue) (nodup : before.linked.Nodup)
    (turn : Turn sets before head queue middle events) (pass : Pass sets middle after later) :
    Pass sets before after (events ++ later) := by
  have between : (· ∈ middle.linked) = registeredAfter (· ∈ before.linked) events :=
    funext fun other => propext (turn.registered other)
  constructor
  · rw [isQueue, called, List.filterMap_append]
    exact (called_turn turn).append (pass.once.trans turn.fewer)
  · exact pass.done
  · exact pass.nodup
  · intro other
    rw [pass.registered, registeredAfter_append, between]
  · intro earlier handler flags rest split
    obtain ⟨between', rfl, isLater⟩ | ⟨between', isEvents, isRest⟩ := List.append_eq_append_iff.mp split
    · rw [registeredAfter_append, ← between]
      exact pass.inTime between' handler flags rest isLater
    · cases between' with
      | nil =>
          rw [List.append_nil] at isEvents
          rw [← isEvents, ← between]
          exact pass.inTime [] handler flags rest isRest.symm
      | cons event between' =>
          cases isRest
          obtain ⟨rfl, rfl, -, -⟩ := turn.first isEvents
          change handler ∈ before.linked
          rw [linked, isQueue]
          exact List.mem_append_right _ List.mem_cons_self
  · intro other notAbout flags
    obtain ⟨queued, fd, eventMask⟩ := turn.keeps other fun action member =>
      notAbout action (List.mem_append_left _ member)
    have later_ := pass.notMissed other (fun action member => notAbout action (List.mem_append_right _ member)) flags
    have same : flagsOf sets (middle.handlers other) = flagsOf sets (before.handlers other) := by
      exact flagsOf_congr sets fd eventMask
    have notIn : head ∉ queue := by
      rw [linked, isQueue] at nodup
      exact (List.nodup_cons.mp (List.nodup_append.mp nodup).2.1).1
    rw [List.mem_append, later_, queued, same, isQueue, List.mem_cons]
    constructor
    · rintro (now | ⟨isIn, is⟩)
      · obtain ⟨earlier, rest, split⟩ := List.append_of_mem now
        obtain ⟨-, rfl, is, some_⟩ := turn.first split
        exact ⟨.inl rfl, some_, is⟩
      · exact ⟨.inr isIn, is⟩
    · rintro ⟨rfl | isIn, some_, is⟩
      · obtain ⟨none_, -⟩ | ⟨-, actions, rfl⟩ := turn.calls
        · exact absurd (is.trans none_) some_
        · rw [is]
          exact .inl List.mem_cons_self
      · exact .inr ⟨isIn, some_, is⟩

theorem notify_pass (onEvent : OnEvent ω) (sets : FdSets) (self : Loop ω) (nodup : self.linked.Nodup) :
    Pass sets self (self.notify onEvent sets).1 (self.notify onEvent sets).2 := by
  induction self using notify.induct onEvent sets with
  | case1 self isQueue =>
      have goes : self.notify onEvent sets = (self, []) := by
        unfold notify
        split
        next => rfl
        next head queue isQueue' =>
          rw [isQueue] at isQueue'
          cases isQueue'
      rw [goes]
      refine ⟨List.nil_sublist _, isQueue, nodup, fun _ => Iff.rfl, ?_, ?_⟩
      · intro earlier handler flags later split
        exact absurd (congrArg List.length split) (by simp)
      · intro other _ flags
        rw [isQueue]
        simp
  | case2 self head queue isQueue processed ih =>
      have goes : self.notify onEvent sets =
          ((processed.1.notify onEvent sets).1, processed.2 ++ (processed.1.notify onEvent sets).2) := by
        conv => lhs; unfold notify
        split
        next isQueue' =>
          rw [isQueue] at isQueue'
          cases isQueue'
        next head' queue' isQueue' =>
          rw [isQueue] at isQueue'
          cases isQueue'
          rfl
      have turn := process_turn onEvent sets isQueue nodup
      rw [goes]
      exact turn.pass isQueue nodup (ih turn.nodup)

/-! ## What is asked for -/

theorem and_bit {eventMask bit : UInt32} {i : Nat} (isBit : bit.toBitVec = BitVec.twoPow 32 i)
    (asked : eventMask &&& bit ≠ 0) : bit &&& eventMask = bit := by
  rw [UInt32.and_comm]
  apply UInt32.toBitVec_inj.mp
  rw [UInt32.toBitVec_and, isBit, BitVec.and_twoPow]
  split
  next => rfl
  next isNot =>
    apply absurd _ asked
    apply UInt32.toBitVec_inj.mp
    rw [UInt32.toBitVec_and, isBit, BitVec.and_twoPow, if_neg isNot]
    rfl

theorem or_and (flags flags' eventMask : UInt32) :
    (flags ||| flags') &&& eventMask = (flags &&& eventMask) ||| (flags' &&& eventMask) := by
  apply UInt32.toBitVec_inj.mp
  simp only [UInt32.toBitVec_and, UInt32.toBitVec_or]
  exact BitVec.and_or_distrib_right

/-- A descriptor is in a set only if it is wanted there. -/
structure Wanted (wants : UInt32 → Int → Prop) (sets : FdSets) : Prop where
  readSet : ∀ fd ∈ sets.readSet, wants canRead fd
  writeSet : ∀ fd ∈ sets.writeSet, wants canWrite fd
  exceptSet : ∀ fd ∈ sets.exceptSet, wants fdError fd

theorem Wanted.monitor {wants : UInt32 → Int → Prop} {sets : FdSets} (wanted : Wanted wants sets) {handler : Handler}
    (asks : ∀ bit, handler.eventMask &&& bit ≠ 0 → wants bit handler.fd) : Wanted wants (sets.monitor handler) := by
  have added {bit : UInt32} {set : List Int} (wanted : ∀ fd ∈ set, wants bit fd) :
      ∀ fd ∈ handler.addTo bit set, wants bit fd := by
    intro fd member
    unfold Handler.addTo at member
    split at member
    next asked =>
      obtain rfl | member := List.mem_cons.mp member
      · exact asks bit asked
      · exact wanted fd member
    next => exact wanted fd member
  unfold FdSets.monitor
  split
  next => exact ⟨added wanted.readSet, added wanted.writeSet, added wanted.exceptSet⟩
  next => exact wanted

theorem wanted_fdSets (self : Loop ω) :
    Wanted (fun bit fd => ∃ address ∈ self.monitorHandlers, (self.handlers address).fd = fd ∧
      (self.handlers address).eventMask &&& bit ≠ 0) self.fdSets := by
  unfold fdSets
  have all (addresses : List Nat) (sets : FdSets) (wants : UInt32 → Int → Prop) (wanted : Wanted wants sets)
      (ask : ∀ address ∈ addresses, ∀ bit, (self.handlers address).eventMask &&& bit ≠ 0 →
        wants bit (self.handlers address).fd) :
      Wanted wants (addresses.foldl (fun sets address => sets.monitor (self.handlers address)) sets) := by
    induction addresses generalizing sets with
    | nil => exact wanted
    | cons address addresses ih =>
        apply ih
        · exact wanted.monitor (ask address List.mem_cons_self)
        · exact fun other member => ask other (List.mem_cons_of_mem _ member)
  apply all
  · constructor <;>
      · intro fd member
        cases member
  · intro address member bit asked
    exact ⟨address, member, rfl, asked⟩

/-- A handler with a descriptor of its own is called only for what it asks for. -/
theorem flagsOf_asked {self : Loop ω} (selected : Selected self.fdSets) {address : Nat}
    (own : ∀ other ∈ self.monitorHandlers, (self.handlers other).fd = (self.handlers address).fd → other = address) :
    flagsOf selected.left (self.handlers address) &&& (self.handlers address).eventMask =
      flagsOf selected.left (self.handlers address) := by
  obtain ⟨left, readSub, writeSub, exceptSub⟩ := selected
  have wanted := wanted_fdSets self
  have part (bit : UInt32) (i : Nat) {set : List Int} (isBit : bit.toBitVec = BitVec.twoPow 32 i)
      (asks : (self.handlers address).fd ∈ set → ∃ other ∈ self.monitorHandlers,
        (self.handlers other).fd = (self.handlers address).fd ∧ (self.handlers other).eventMask &&& bit ≠ 0) :
      (if (self.handlers address).fd ∈ set then bit else 0) &&& (self.handlers address).eventMask =
        if (self.handlers address).fd ∈ set then bit else 0 := by
    by_cases isIn : (self.handlers address).fd ∈ set
    · obtain ⟨other, member, same, asked⟩ := asks isIn
      obtain rfl := own other member same
      rw [if_pos isIn]
      exact and_bit isBit asked
    · rw [if_neg isIn]
      exact UInt32.zero_and
  dsimp only
  unfold flagsOf
  split
  next => exact UInt32.zero_and
  next =>
    have read := part canRead 0 rfl fun isIn => wanted.readSet _ (readSub isIn)
    have write := part canWrite 1 rfl fun isIn => wanted.writeSet _ (writeSub isIn)
    have except := part fdError 2 rfl fun isIn => wanted.exceptSet _ (exceptSub isIn)
    rw [eventFlags, or_and, or_and]
    exact congrArg₂ (· ||| ·) (congrArg₂ (· ||| ·) read write) except

theorem pass_of_select (onEvent : OnEvent ω) {select : ∀ sets, Option (Selected sets)} {self : Loop ω}
    (nodup : self.monitorHandlers.Nodup) {selected : Selected self.fdSets} (selects : select self.fdSets = some selected) :
    Pass selected.left { self with monitorHandlers := [], handlerQueue := self.monitorHandlers }
      (self.monitorFileDescriptors onEvent select).1 (self.monitorFileDescriptors onEvent select).2 := by
  unfold monitorFileDescriptors
  rw [selects]
  exact notify_pass onEvent selected.left _ nodup

/-! ## Runs -/

/-- Between the passes, no handler is in the list twice. -/
theorem run_nodup (onEvent : OnEvent ω) (handlers : Nat → Handler) (world : ω) (steps : List Step) :
    (run onEvent (init handlers world) steps).monitorHandlers.Nodup := by
  suffices all : ∀ self : Loop ω, self.handlerQueue = [] → self.monitorHandlers.Nodup →
      (run onEvent self steps).monitorHandlers.Nodup from all _ rfl List.nodup_nil
  induction steps with
  | nil => exact fun _ _ nodup => nodup
  | cons first steps ih =>
      intro self noQueue nodup
      rw [run, List.foldl_cons]
      have linked_ (loop : Loop ω) (noQueue : loop.handlerQueue = []) : loop.linked = loop.monitorHandlers := by
        rw [linked, noQueue, List.append_nil]
      cases first with
      | action action =>
          have after := (perform_linked (by rwa [linked_ self noQueue]) action).1
          have noQueue' : (self.perform action).handlerQueue = [] := by
            have fewer := (perform_handlerQueue self action).1
            rw [noQueue] at fewer
            exact List.sublist_nil.mp fewer
          rw [linked_ _ noQueue'] at after
          exact ih _ noQueue' after
      | monitor select =>
          cases selects : select self.fdSets with
          | none =>
              have same : step onEvent self (.monitor select) = self := by
                rw [step, monitorFileDescriptors, selects]
              rw [same]
              exact ih self noQueue nodup
          | some selected =>
              have pass := pass_of_select onEvent nodup selects
              refine ih _ pass.done ?_
              have after := pass.nodup
              rwa [linked_ _ pass.done] at after

/-- Whatever happens to a loop, and whatever the handlers do when they are called, a pass calls each of them at most
    once, in the order of the list, and only while it is registered. One that nobody adds, removes or changes in the
    pass is called exactly if it has a mask and its descriptor is ready, and if no other one has the same descriptor,
    only for what it asks for. Behind the pass, those are registered that the handlers have left so. -/
theorem run_monitors (onEvent : OnEvent ω) (handlers : Nat → Handler) (world : ω) (steps : List Step)
    (select : ∀ sets, Option (Selected sets)) :
    let self := run onEvent (init handlers world) steps
    let after := (self.monitorFileDescriptors onEvent select).1
    let events := (self.monitorFileDescriptors onEvent select).2
    (∀ other, other ∈ after.monitorHandlers ↔ registeredAfter (· ∈ self.monitorHandlers) events other) ∧
    (called events).Nodup ∧ (called events).Sublist self.monitorHandlers ∧
    (∀ earlier handler flags later, events = earlier ++ .call handler flags :: later →
      registeredAfter (· ∈ self.monitorHandlers) earlier handler) ∧
    ∀ selected, select self.fdSets = some selected → ∀ other, (∀ action, .action action ∈ events → other ≠ action.handler) →
      ∀ flags, (.call other flags ∈ events ↔
          other ∈ self.monitorHandlers ∧ flags ≠ 0 ∧ flags = flagsOf selected.left (self.handlers other)) ∧
        (.call other flags ∈ events →
          (∀ another ∈ self.monitorHandlers, (self.handlers another).fd = (self.handlers other).fd → another = other) →
          flags &&& (self.handlers other).eventMask = flags) := by
  intro self after events
  have nodup := run_nodup onEvent handlers world steps
  cases selects : select self.fdSets with
  | none =>
      have same : self.monitorFileDescriptors onEvent select = (self, []) := by rw [monitorFileDescriptors, selects]
      have sameAfter : after = self := congrArg Prod.fst same
      have none_ : events = [] := congrArg Prod.snd same
      rw [sameAfter, none_]
      refine ⟨fun _ => Iff.rfl, List.nodup_nil, List.nil_sublist _, ?_, ?_⟩
      · intro earlier handler flags later split
        exact absurd (congrArg List.length split) (by simp)
      · intro selected is
        cases is
  | some selected =>
      obtain ⟨once, done, nodup', registered, inTime, notMissed⟩ := pass_of_select onEvent nodup selects
      rw [linked, done, List.append_nil] at registered
      refine ⟨registered, nodup.sublist once, once, inTime, ?_⟩
      intro selected' is other notAbout flags
      cases is
      have calls := notMissed other notAbout flags
      refine ⟨calls, ?_⟩
      intro isCalled own
      rw [(calls.mp isCalled).2.2]
      exact flagsOf_asked selected own

end Loop

end GoldenGate.SelectLoop
