import GoldenGate.Common.Result
import GoldenGate.Lib.Agenda
import GoldenGate.Lib.Memory
import Mathlib.Data.List.FinRange
import Mathlib.Logic.Function.Basic

/-! # Timers

The embedding of `gg_timer.c`. A timer is its index in the array of the scheduler, and a list
of timers is a list of indices. `SetTime` calls out to a listener that may call the scheduler
again, so it is cut into the steps between two call-outs: a run is a sequence of calls, made
by anybody, and of callbacks that return.
-/

namespace GoldenGate

open Memory

/-- `GG_Timer`. -/
structure Timer (Listener : Type) where
  listener : Option Listener
  startTime : UInt32
  fireTime : UInt32
  deriving Repr, DecidableEq

/-- `GG_TimerScheduler`. -/
structure TimerScheduler (maxTimers : Nat) (Listener : Type) where
  timers : Fin maxTimers → Timer Listener
  scheduled : List (Fin maxTimers)
  frozen : List (Fin maxTimers)
  nursery : List (Fin maxTimers)
  now : UInt32

variable {maxTimers : Nat} {Listener : Type}

namespace TimerScheduler

/-- `GG_TimerScheduler_Create`. -/
def create : TimerScheduler maxTimers Listener := ⟨fun _ => ⟨none, 0, 0⟩, [], [], List.finRange maxTimers, 0⟩

/-- `GG_LINKED_LIST_NODE_REMOVE`: the node is taken out of the list it is in. -/
def unlink (self : TimerScheduler maxTimers Listener) (timer : Fin maxTimers) : TimerScheduler maxTimers Listener :=
  { self with
    scheduled := self.scheduled.filter (· ≠ timer)
    frozen := self.frozen.filter (· ≠ timer)
    nursery := self.nursery.filter (· ≠ timer) }

def set (self : TimerScheduler maxTimers Listener) (timer : Fin maxTimers) (value : Timer Listener) :
    TimerScheduler maxTimers Listener :=
  { self with timers := Function.update self.timers timer value }

/-- `GG_TimerScheduler_CreateTimer`. -/
def createTimer (self : TimerScheduler maxTimers Listener) :
    TimerScheduler maxTimers Listener × Except Error (Fin maxTimers) :=
  match self.nursery with
  | [] => (self, .error .outOfResources)
  | timer :: _ =>
      let self := self.unlink timer
      ({ self with frozen := self.frozen ++ [timer] }.set timer ⟨none, 0, 0⟩, .ok timer)

/-- `GG_Timer_Destroy`. -/
def destroy (self : TimerScheduler maxTimers Listener) (timer : Fin maxTimers) :
    Access (TimerScheduler maxTimers Listener) := do
  assert (timer ∈ self.scheduled ∨ timer ∈ self.frozen ∨ timer ∈ self.nursery)
  let self := (self.set timer ⟨none, 0, 0⟩).unlink timer
  return { self with nursery := self.nursery ++ [timer] }

/-- The timer is linked before the first one that fires later. -/
def insertScheduled (timers : Fin maxTimers → Timer Listener) (timer : Fin maxTimers) :
    List (Fin maxTimers) → List (Fin maxTimers)
  | [] => [timer]
  | node :: rest =>
      if (timers timer).fireTime < (timers node).fireTime then timer :: node :: rest
      else node :: insertScheduled timers timer rest

/-- `GG_Timer_Schedule`. -/
def schedule (self : TimerScheduler maxTimers Listener) (timer : Fin maxTimers) (listener : Option Listener)
    (msFromNow : UInt32) : TimerScheduler maxTimers Listener × Except Error Unit :=
  match listener with
  | none => (self, .error .invalidParameters)
  | some listener =>
      let self := (self.unlink timer).set timer ⟨some listener, self.now, self.now + msFromNow⟩
      ({ self with scheduled := insertScheduled self.timers timer self.scheduled }, .ok ())

/-- `GG_Timer_Unschedule`. -/
def unschedule (self : TimerScheduler maxTimers Listener) (timer : Fin maxTimers) :
    TimerScheduler maxTimers Listener :=
  match (self.timers timer).listener with
  | none => self
  | some _ =>
      let value := { self.timers timer with listener := none }
      let self := self.unlink timer
      { self with frozen := timer :: self.frozen }.set timer value

/-- One turn of the loop of `GG_TimerScheduler_SetTime`, up to the call of a listener: the
    timer that is at hand to its listener, if one is due. -/
def fireNext (self : TimerScheduler maxTimers Listener) (now : UInt32) :
    Access (TimerScheduler maxTimers Listener × Option (Fin maxTimers × Listener × UInt32)) :=
  match self.scheduled with
  | [] => return (self, none)
  | timer :: _ =>
      if now < (self.timers timer).fireTime then return (self, none)
      else match (self.timers timer).listener with
        | none => .error .assertion
        | some listener => do
            assert ((self.timers timer).startTime ≤ now)
            return (self.unschedule timer, some (timer, listener, now - (self.timers timer).startTime))

end TimerScheduler

/-! ## Runs -/

/-- The calls that a listener may make too. -/
inductive TimerCall (maxTimers : Nat) (Listener : Type) where
  | createTimer
  | destroy (timer : Fin maxTimers)
  | schedule (timer : Fin maxTimers) (listener : Option Listener) (msFromNow : UInt32)
  | unschedule (timer : Fin maxTimers)
  deriving Repr, DecidableEq

def TimerScheduler.call (self : TimerScheduler maxTimers Listener) :
    TimerCall maxTimers Listener → Access (TimerScheduler maxTimers Listener)
  | .createTimer => return self.createTimer.1
  | .destroy timer => self.destroy timer
  | .schedule timer listener msFromNow => return (self.schedule timer listener msFromNow).1
  | .unschedule timer => return self.unschedule timer

inductive TimerEvent (maxTimers : Nat) (Listener : Type) where
  | called (call : TimerCall maxTimers Listener)
  | setTime (now : UInt32)
  | fired (timer : Fin maxTimers) (listener : Listener) (elapsed : UInt32)
  | returned
  deriving Repr, DecidableEq

/-- A scheduler in the middle of a run: the time of the `SetTime` whose listener is being
    called, if one is, and what has happened. -/
structure TimerRun (maxTimers : Nat) (Listener : Type) where
  scheduler : TimerScheduler maxTimers Listener
  firing : Option UInt32
  history : List (TimerEvent maxTimers Listener)

inductive TimerStep (maxTimers : Nat) (Listener : Type) where
  | call (call : TimerCall maxTimers Listener)
  | setTime (now : UInt32)
  /-- The listener that was called returns. -/
  | resume
  deriving Repr, DecidableEq

namespace TimerRun

def create : TimerRun maxTimers Listener := ⟨.create, none, []⟩

/-- The loop of `SetTime` goes on. -/
def loop (self : TimerRun maxTimers Listener) (now : UInt32) : Access (TimerRun maxTimers Listener) := do
  match ← self.scheduler.fireNext now with
  | (scheduler, some (timer, listener, elapsed)) =>
      return ⟨scheduler, some now, self.history ++ [TimerEvent.fired timer listener elapsed]⟩
  | (scheduler, none) => return ⟨scheduler, none, self.history ++ [TimerEvent.returned]⟩

def step (self : TimerRun maxTimers Listener) : TimerStep maxTimers Listener → Access (TimerRun maxTimers Listener)
  | .call call => do
      let scheduler ← self.scheduler.call call
      return { self with scheduler := scheduler, history := self.history ++ [TimerEvent.called call] }
  | .setTime now =>
      loop ⟨{ self.scheduler with now := now }, self.firing, self.history ++ [TimerEvent.setTime now]⟩ now
  | .resume =>
      match self.firing with
      | none => return self
      | some now => self.loop now

def run (self : TimerRun maxTimers Listener) (steps : List (TimerStep maxTimers Listener)) :
    Access (TimerRun maxTimers Listener) :=
  steps.foldlM step self

end TimerRun

end GoldenGate
