import GoldenGate.Common.Result
import GoldenGate.Lib.Fifo
import GoldenGate.Lib.Memory
import GoldenGate.Lib.Runs
import Mathlib.Data.List.Nodup

/-! # Asynchronous pipes

The embedding of `gg_async_pipe.c`. What is put into a pipe waits in an array until a timer fires or the
sink calls, and goes to the sink from there. The sink and the listener are called from inside of
`GG_AsyncPipe_OnCanPut` and of `GG_AsyncPipe_OnTimerFired`, and may put data or call `OnCanPut` before they
return: the calls that wait for them are frames, the innermost first.
-/

namespace GoldenGate

open Memory Runs

/-- A buffer of a pipe, and the number of the call that put it there. -/
structure PipeItem (β : Type) where
  put : Nat
  data : β
  deriving Repr, DecidableEq

/-- `GG_AsyncPipe`, with whether its timer is scheduled and whether it has a listener. -/
structure AsyncPipe (σ β : Type) where
  timerScheduled : Bool
  sink : Option σ
  hasListener : Bool
  maxItems : Nat
  items : List (Option (PipeItem β))
  itemCount : Nat
  deriving Repr, DecidableEq

namespace AsyncPipe

variable {σ β : Type}

/-- `GG_AsyncPipe_Create`, where there is memory. -/
def create (maxItems : Nat) : Access (AsyncPipe σ β) := do
  assert (maxItems > 0)
  .ok ⟨false, none, false, maxItems, List.replicate maxItems none, 0⟩

/-- `GG_AsyncPipe_PutData`. -/
def putData (pipe : AsyncPipe σ β) (item : PipeItem β) : Access (AsyncPipe σ β × Except Error Unit) :=
  if pipe.itemCount = pipe.maxItems then .ok (pipe, .error .wouldBlock)
  else if pipe.itemCount < pipe.items.length then
    .ok ({ pipe with
      items := pipe.items.set pipe.itemCount (some item)
      itemCount := pipe.itemCount + 1
      timerScheduled := true }, .ok ())
  else .error .outOfBounds

/-- `GG_AsyncPipe_SetListener`. -/
def setListener (pipe : AsyncPipe σ β) (hasListener : Bool) : AsyncPipe σ β :=
  { pipe with hasListener := hasListener }

/-- `GG_AsyncPipe_SetDataSink`. -/
def setDataSink (pipe : AsyncPipe σ β) (sink : Option σ) : AsyncPipe σ β :=
  { pipe with sink := sink }

/-- The slots of the array that are in use. -/
def used (pipe : AsyncPipe σ β) : List (Option (PipeItem β)) := pipe.items.take pipe.itemCount

/-- `self->items[0]`, which has to be in use. -/
def first (pipe : AsyncPipe σ β) : Access (PipeItem β) :=
  match pipe.used with
  | [] => .error .outOfBounds
  | none :: _ => .error .undefined
  | some item :: _ => .ok item

/-- `self->items[i] = self->items[i+1]` for so many `i`. -/
def relocate : Nat → List (Option (PipeItem β)) → Access (List (Option (PipeItem β)))
  | 0, items => .ok items
  | count + 1, _ :: next :: items => do
      let items ← relocate count (next :: items)
      .ok (next :: items)
  | _ + 1, _ => .error .outOfBounds

/-- What `GG_AsyncPipe_OnCanPut` does after the sink has taken a buffer, which has to stay inside of the
    slots in use. From `0` the counter would go to its largest value, and the loop out of the array. -/
def removeFirst (pipe : AsyncPipe σ β) : Access (AsyncPipe σ β) :=
  match pipe.itemCount with
  | 0 => .error .outOfBounds
  | itemCount + 1 => do
      let items ← relocate itemCount pipe.used
      .ok { pipe with items := items ++ pipe.items.drop pipe.itemCount, itemCount := itemCount }

end AsyncPipe

/-! ## The array -/

namespace AsyncPipe

variable {σ β : Type} {pipe : AsyncPipe σ β} {waiting : List (PipeItem β)}

/-- The first slots of the array hold the buffers that wait. -/
structure Holds (pipe : AsyncPipe σ β) (waiting : List (PipeItem β)) : Prop where
  size : pipe.items.length = pipe.maxItems
  count : pipe.itemCount = waiting.length
  held : ∃ free, pipe.items = waiting.map some ++ free

theorem Holds.create {maxItems : Nat} (created : create maxItems = .ok pipe) :
    Holds pipe [] ∧ pipe.maxItems = maxItems ∧ pipe.sink = none := by
  unfold AsyncPipe.create at created
  obtain ⟨_, -, created⟩ := bind_ok created
  cases created
  exact ⟨⟨List.length_replicate, rfl, _, rfl⟩, rfl, rfl⟩

theorem Holds.used (holds : Holds pipe waiting) : pipe.used = waiting.map some := by
  obtain ⟨free, held⟩ := holds.held
  unfold AsyncPipe.used
  rw [holds.count, held]
  exact List.take_left' (List.length_map _)

theorem Holds.first {item : PipeItem β} (holds : Holds pipe (item :: waiting)) : pipe.first = .ok item := by
  unfold AsyncPipe.first
  rw [holds.used]
  rfl

/-- What was in the last slot stays there. -/
theorem relocate_items (item : PipeItem β) (waiting : List (PipeItem β)) :
    ∃ stale, relocate waiting.length (some item :: waiting.map some) = .ok (waiting.map some ++ [stale]) := by
  induction waiting generalizing item with
  | nil => exact ⟨some item, rfl⟩
  | cons next waiting ih =>
      obtain ⟨stale, relocates⟩ := ih next
      refine ⟨stale, ?_⟩
      simp only [List.length_cons, List.map_cons, List.cons_append, relocate]
      rw [relocates, ok_bind]

theorem Holds.removeFirst {item : PipeItem β} (holds : Holds pipe (item :: waiting)) :
    ∃ items, pipe.removeFirst = .ok { pipe with items := items, itemCount := waiting.length } ∧
      Holds { pipe with items := items, itemCount := waiting.length } waiting := by
  have used := holds.used
  obtain ⟨size, count, free, held⟩ := holds
  obtain ⟨stale, relocates⟩ := relocate_items item waiting
  have unused : pipe.items.drop pipe.itemCount = free := by
    rw [held, count]
    exact List.drop_left' (List.length_map _)
  refine ⟨waiting.map some ++ [stale] ++ free, ?_, ?_, rfl, stale :: free, by simp⟩
  · unfold AsyncPipe.removeFirst
    rw [unused, used, count]
    simp only [List.length_cons, List.map_cons]
    rw [relocates, ok_bind]
  · rw [held] at size
    simp only [List.length_append, List.length_map, List.length_cons, List.length_nil] at size ⊢
    omega

theorem Holds.putData (holds : Holds pipe waiting) (item : PipeItem β) :
    pipe.putData item = .ok (pipe, .error .wouldBlock) ∨
      ∃ items, pipe.putData item =
          .ok ({ pipe with items := items, itemCount := waiting.length + 1, timerScheduled := true }, .ok ()) ∧
        Holds { pipe with items := items, itemCount := waiting.length + 1, timerScheduled := true }
          (waiting ++ [item]) := by
  obtain ⟨size, count, free, held⟩ := holds
  unfold AsyncPipe.putData
  by_cases full : pipe.itemCount = pipe.maxItems
  · exact .inl (if_pos full)
  · have sizes : waiting.length + free.length = pipe.maxItems := by
      rw [← size, held, List.length_append, List.length_map]
    cases free with
    | nil => exact absurd (count.trans sizes) full
    | cons slot free =>
        rw [if_neg full, if_pos (by rw [List.length_cons] at sizes; omega), count]
        refine .inr ⟨_, rfl, ?_, ?_, free, ?_⟩
        · exact List.length_set.trans size
        · exact (@List.length_append _ waiting [item]).symm
        · simp [held]

end AsyncPipe

/-! ## Runs -/

/-- A call of the pipe that waits for its call-out: for the sink with a buffer, for the listener after
    that, in `GG_AsyncPipe_OnCanPut`, which may have been called from `GG_AsyncPipe_OnTimerFired`; or for the
    listener in `GG_AsyncPipe_OnTimerFired`. -/
inductive PipeFrame (σ β : Type) where
  | putting (sink : σ) (item : PipeItem β) (fromTimer : Bool)
  | notifying (fromTimer : Bool)
  | timerNotifying
  deriving Repr, DecidableEq

/-- A pipe, the calls of it that wait, and what has happened: the number of puts, the buffers that were
    accepted and taken and the changes of the sink, and the last answer of a sink. -/
structure PipeRun (σ β : Type) where
  pipe : AsyncPipe σ β
  frames : List (PipeFrame σ β)
  puts : Nat
  events : List (Fifo.Event σ (PipeItem β))
  lastPut : Option (σ × Except Error Unit)

/-- A producer puts data; the listener and the sink are set; the sink calls `OnCanPut`; the timer fires;
    the sink and the listener return from the innermost call-out. -/
inductive PipeStep (σ β : Type) where
  | putData (data : β)
  | setListener (hasListener : Bool)
  | setDataSink (sink : Option σ)
  | onCanPut
  | timerFired
  | sinkReturns (result : Except Error Unit)
  | listenerReturns

namespace PipeRun

variable {σ β : Type}

def start (pipe : AsyncPipe σ β) : PipeRun σ β := ⟨pipe, [], 0, [], none⟩

def log (state : PipeRun σ β) (event : Fifo.Event σ (PipeItem β)) : PipeRun σ β :=
  { state with events := state.events ++ [event] }

def push (state : PipeRun σ β) (frame : PipeFrame σ β) : PipeRun σ β :=
  { state with frames := frame :: state.frames }

def putData (state : PipeRun σ β) (data : β) : Access (PipeRun σ β) := do
  let item : PipeItem β := ⟨state.puts, data⟩
  let (pipe, result) ← state.pipe.putData item
  let state := { state with pipe := pipe, puts := state.puts + 1 }
  match result with
  | .ok () => .ok (state.log (.produced item))
  | .error _ => .ok state

/-- What is left of `GG_AsyncPipe_OnTimerFired` after `GG_AsyncPipe_OnCanPut`. -/
def afterOnCanPut (state : PipeRun σ β) (fromTimer : Bool) : PipeRun σ β :=
  if fromTimer && state.pipe.itemCount = 0 && state.pipe.hasListener then state.push .timerNotifying else state

/-- What is left of `GG_AsyncPipe_OnCanPut` after its loop. -/
def notify (state : PipeRun σ β) (fromTimer : Bool) : PipeRun σ β :=
  if state.pipe.hasListener && state.pipe.itemCount < state.pipe.maxItems then state.push (.notifying fromTimer)
  else state.afterOnCanPut fromTimer

/-- The loop of `GG_AsyncPipe_OnCanPut`, up to the next buffer for the sink. -/
def deliver (state : PipeRun σ β) (fromTimer : Bool) : Access (PipeRun σ β) :=
  if state.pipe.itemCount = 0 then .ok (state.notify fromTimer)
  else do
    let item ← state.pipe.first
    match state.pipe.sink with
    | none => .error .assertion
    | some sink => .ok (state.push (.putting sink item fromTimer))

/-- `GG_AsyncPipe_OnCanPut`. -/
def onCanPut (state : PipeRun σ β) (fromTimer : Bool) : Access (PipeRun σ β) :=
  match state.pipe.sink with
  | none => .ok (state.afterOnCanPut fromTimer)
  | some _ => state.deliver fromTimer

/-- The loop goes on with what the sink made of a buffer. -/
def afterPut (state : PipeRun σ β) (sink : σ) (item : PipeItem β) (fromTimer : Bool) (result : Except Error Unit) :
    Access (PipeRun σ β) :=
  let state := { state with lastPut := some (sink, result) }
  match result with
  | .ok () => do
      let pipe ← state.pipe.removeFirst
      ({ state with pipe := pipe }.log (.taken sink item)).deliver fromTimer
  | .error _ => .ok (state.notify fromTimer)

def step (state : PipeRun σ β) : PipeStep σ β → Access (PipeRun σ β)
  | .putData data => state.putData data
  | .setListener hasListener => .ok { state with pipe := state.pipe.setListener hasListener }
  | .setDataSink sink => .ok ({ state with pipe := state.pipe.setDataSink sink }.log (.sink sink))
  | .onCanPut => state.onCanPut false
  | .timerFired => { state with pipe := { state.pipe with timerScheduled := false } }.onCanPut true
  | .sinkReturns result =>
      match state.frames with
      | .putting sink item fromTimer :: frames => { state with frames := frames }.afterPut sink item fromTimer result
      | _ => .ok state
  | .listenerReturns =>
      match state.frames with
      | .notifying fromTimer :: frames => .ok ({ state with frames := frames }.afterOnCanPut fromTimer)
      | .timerNotifying :: frames => .ok { state with frames := frames }
      | _ => .ok state

def run (state : PipeRun σ β) (steps : List (PipeStep σ β)) : Access (PipeRun σ β) := steps.foldlM step state

/-- What the others may do: between top-level calls the listener and the sink are set and a timer that is
    scheduled fires; the innermost call-out returns; data is put and the sink calls at any time. -/
def Comes (state : PipeRun σ β) : PipeStep σ β → Prop
  | .putData _ | .onCanPut => True
  | .setListener _ | .setDataSink _ => state.frames = []
  | .timerFired => state.frames = [] ∧ state.pipe.timerScheduled = true
  | .sinkReturns _ => ∃ sink item fromTimer frames, state.frames = .putting sink item fromTimer :: frames
  | .listenerReturns => ∃ frame frames, state.frames = frame :: frames ∧
      ∀ sink item fromTimer, frame ≠ .putting sink item fromTimer

/-- A sink does not take a buffer that was taken since it was called with it, in a call of `OnCanPut` from
    inside of it; and a sink is set where nothing waits, or with the timer scheduled, or again after it has
    refused the last put. -/
def Permits (state : PipeRun σ β) : PipeStep σ β → Prop
  | .sinkReturns (.ok ()) => match state.frames with
      | .putting _ item _ :: _ => item ∉ Fifo.taken state.events
      | _ => True
  | .setDataSink (some sink) => state.pipe.itemCount = 0 ∨ state.pipe.timerScheduled = true ∨
      ∃ error, state.lastPut = some (sink, .error error)
  | _ => True

/-! ## Invariants -/

section Invariants

variable {maxItems : Nat} {state : PipeRun σ β} {waiting : List (PipeItem β)}

/-- A pipe between two steps. What a waiting call has given to the sink was taken since, or is the first of
    what waits. -/
structure Sound (maxItems : Nat) (state : PipeRun σ β) (waiting : List (PipeItem β)) : Prop where
  holds : state.pipe.Holds waiting
  capacity : state.pipe.maxItems = maxItems
  runs : Fifo.Runs maxItems ⟨none, []⟩ state.events ⟨state.pipe.sink, waiting⟩
  lossless : Fifo.lost state.events = []
  numbered : ∀ item ∈ Fifo.produced state.events, item.put < state.puts
  distinct : (Fifo.produced state.events).Nodup
  pending : ∀ sink item fromTimer, PipeFrame.putting sink item fromTimer ∈ state.frames →
    state.pipe.sink = some sink ∧ (item ∈ Fifo.taken state.events ∨ waiting.head? = some item)

/-- What waits does not wait in vain: the timer is scheduled, or the sink has a buffer or has refused
    the last one. -/
def Awake (state : PipeRun σ β) : Prop :=
  state.pipe.itemCount = 0 ∨ state.pipe.timerScheduled = true ∨ state.pipe.sink = none ∨
    (∃ sink item fromTimer, PipeFrame.putting sink item fromTimer ∈ state.frames) ∨
    ∃ sink error, state.pipe.sink = some sink ∧ state.lastPut = some (sink, .error error)

/-- Only calls that wait for the listener are new. -/
structure Notified (before after : PipeRun σ β) : Prop where
  same : after = { before with frames := after.frames }
  frames : ∀ sink item fromTimer, PipeFrame.putting sink item fromTimer ∈ after.frames ↔
    PipeFrame.putting sink item fromTimer ∈ before.frames

theorem Sound.notified {after : PipeRun σ β} (sound : Sound maxItems state waiting) (notified : Notified state after) :
    Sound maxItems after waiting := by
  obtain ⟨same, frames⟩ := notified
  rw [same]
  refine ⟨sound.holds, sound.capacity, sound.runs, sound.lossless, sound.numbered, sound.distinct, ?_⟩
  intro sink item fromTimer waits
  exact sound.pending sink item fromTimer ((frames sink item fromTimer).mp waits)

theorem Awake.notified {after : PipeRun σ β} (awake : Awake state) (notified : Notified state after) : Awake after := by
  obtain ⟨same, frames⟩ := notified
  rw [same]
  rcases awake with empty | scheduled | noSink | ⟨sink, item, fromTimer, waits⟩ | refused
  · exact .inl empty
  · exact .inr (.inl scheduled)
  · exact .inr (.inr (.inl noSink))
  · exact .inr (.inr (.inr (.inl ⟨sink, item, fromTimer, (frames sink item fromTimer).mpr waits⟩)))
  · exact .inr (.inr (.inr (.inr refused)))

theorem afterOnCanPut_notified (state : PipeRun σ β) (fromTimer : Bool) :
    Notified state (state.afterOnCanPut fromTimer) := by
  unfold afterOnCanPut
  split
  · exact ⟨rfl, by simp [push]⟩
  · exact ⟨rfl, fun _ _ _ => .rfl⟩

theorem notify_notified (state : PipeRun σ β) (fromTimer : Bool) : Notified state (state.notify fromTimer) := by
  unfold notify
  split
  · exact ⟨rfl, by simp [push]⟩
  · exact afterOnCanPut_notified state fromTimer

/-- A step goes well. -/
def Kept (maxItems : Nat) (after : Access (PipeRun σ β)) : Prop :=
  ∃ state, after = .ok state ∧ ∃ waiting, Sound maxItems state waiting ∧ Awake state

theorem Sound.deliver (sound : Sound maxItems state waiting) (fromTimer : Bool) {sink : σ}
    (isSink : state.pipe.sink = some sink) : Kept maxItems (state.deliver fromTimer) := by
  unfold PipeRun.deliver
  cases waiting with
  | nil =>
      have empty : state.pipe.itemCount = 0 := sound.holds.count
      have notified := notify_notified state fromTimer
      rw [if_pos empty]
      exact ⟨_, rfl, [], sound.notified notified, Awake.notified (.inl empty) notified⟩
  | cons item waiting =>
      have some_ : state.pipe.itemCount ≠ 0 := by
        rw [sound.holds.count]
        exact Nat.succ_ne_zero _
      rw [if_neg some_, sound.holds.first, ok_bind, isSink]
      refine ⟨_, rfl, item :: waiting, ?_, .inr (.inr (.inr (.inl ⟨sink, item, fromTimer, .head _⟩)))⟩
      refine ⟨sound.holds, sound.capacity, sound.runs, sound.lossless, sound.numbered, sound.distinct, ?_⟩
      intro sink' item' fromTimer' waits
      cases waits with
      | head => exact ⟨isSink, .inr rfl⟩
      | tail _ waits => exact sound.pending sink' item' fromTimer' waits

theorem Sound.onCanPut (sound : Sound maxItems state waiting) (fromTimer : Bool) :
    Kept maxItems (state.onCanPut fromTimer) := by
  unfold PipeRun.onCanPut
  cases isSink : state.pipe.sink with
  | none =>
      have notified := afterOnCanPut_notified state fromTimer
      exact ⟨_, rfl, waiting, sound.notified notified, Awake.notified (.inr (.inr (.inl isSink))) notified⟩
  | some sink => exact sound.deliver fromTimer isSink

theorem Sound.putData (sound : Sound maxItems state waiting) (awake : Awake state) (data : β) :
    Kept maxItems (state.putData data) := by
  have later (item : PipeItem β) (is : item ∈ Fifo.produced state.events) : item.put < state.puts + 1 :=
    Nat.lt_succ_of_lt (sound.numbered item is)
  unfold PipeRun.putData
  dsimp only
  rcases sound.holds.putData ⟨state.puts, data⟩ with refuses | ⟨items, accepts, holds⟩
  · rw [refuses, ok_bind]
    exact ⟨_, rfl, waiting, ⟨sound.holds, sound.capacity, sound.runs, sound.lossless, later, sound.distinct,
      sound.pending⟩, awake⟩
  · rw [accepts, ok_bind]
    have produced : Fifo.produced (state.events ++ [Fifo.Event.produced ⟨state.puts, data⟩]) =
        Fifo.produced state.events ++ [⟨state.puts, data⟩] := Fifo.produced_append _ _
    have taken : Fifo.taken (state.events ++ [Fifo.Event.produced ⟨state.puts, data⟩]) = Fifo.taken state.events :=
      (Fifo.taken_append _ _).trans (List.append_nil _)
    have lost : Fifo.lost (state.events ++ [Fifo.Event.produced ⟨state.puts, data⟩]) = Fifo.lost state.events :=
      (Fifo.lost_append _ _).trans (List.append_nil _)
    refine ⟨_, rfl, _, ⟨holds, sound.capacity, sound.runs.snoc (.produced _),
      lost.trans sound.lossless, ?_, ?_, ?_⟩, .inr (.inl rfl)⟩
    · intro item is
      change item ∈ Fifo.produced (_ ++ _) at is
      rw [produced] at is
      rcases List.mem_append.mp is with old | new
      · exact later item old
      · rw [List.mem_singleton.mp new]
        exact Nat.lt_succ_self _
    · change (Fifo.produced (_ ++ _)).Nodup
      rw [produced]
      refine List.nodup_append.mpr ⟨sound.distinct, List.nodup_singleton _, ?_⟩
      rintro item old _ new rfl
      have early := sound.numbered item old
      rw [List.mem_singleton.mp new] at early
      exact Nat.lt_irrefl _ early
    · intro sink item fromTimer waits
      obtain ⟨isSink, isTaken | isFirst⟩ := sound.pending sink item fromTimer waits
      · exact ⟨isSink, .inl (taken.symm ▸ isTaken)⟩
      · exact ⟨isSink, .inr (by rw [List.head?_append, isFirst]; rfl)⟩

/-- The sink takes the first buffer. -/
theorem Sound.taken {item : PipeItem β} (sound : Sound maxItems state (item :: waiting)) {sink : σ}
    (isSink : state.pipe.sink = some sink) {items : List (Option (PipeItem β))}
    (holds : AsyncPipe.Holds { state.pipe with items := items, itemCount := waiting.length } waiting)
    (lastPut : Option (σ × Except Error Unit)) :
    Sound maxItems ({ state with
      pipe := { state.pipe with items := items, itemCount := waiting.length }
      lastPut := lastPut }.log (.taken sink item)) waiting := by
  have event : Fifo.Step maxItems ⟨state.pipe.sink, item :: waiting⟩ (.taken sink item)
      ⟨state.pipe.sink, waiting⟩ := by
    rw [isSink]
    exact .taken
  have produced : Fifo.produced (state.events ++ [Fifo.Event.taken sink item]) = Fifo.produced state.events :=
    (Fifo.produced_append _ _).trans (List.append_nil _)
  have taken : Fifo.taken (state.events ++ [Fifo.Event.taken sink item]) = Fifo.taken state.events ++ [item] :=
    Fifo.taken_append _ _
  have lost : Fifo.lost (state.events ++ [Fifo.Event.taken sink item]) = Fifo.lost state.events :=
    (Fifo.lost_append _ _).trans (List.append_nil _)
  refine ⟨holds, sound.capacity, sound.runs.snoc event, lost.trans sound.lossless, produced.symm ▸ sound.numbered,
    produced.symm ▸ sound.distinct, ?_⟩
  intro sink' item' fromTimer waits
  obtain ⟨isSink', isTaken | isFirst⟩ := sound.pending sink' item' fromTimer waits
  · exact ⟨isSink', .inl (taken.symm ▸ List.mem_append_left _ isTaken)⟩
  · cases isFirst with
    | refl => exact ⟨isSink', .inl (taken.symm ▸ List.mem_append_right _ (List.mem_singleton_self _))⟩

/-- The sink returns. A buffer that it has not taken in the meantime is still the first one. -/
theorem Sound.afterPut (sound : Sound maxItems state waiting) {sink : σ} {item : PipeItem β} (fromTimer : Bool)
    (isSink : state.pipe.sink = some sink) (isItem : item ∈ Fifo.taken state.events ∨ waiting.head? = some item)
    (result : Except Error Unit) (permits : result = .ok () → item ∉ Fifo.taken state.events) :
    Kept maxItems (state.afterPut sink item fromTimer result) := by
  unfold PipeRun.afterPut
  cases result with
  | error error =>
      have notified := notify_notified { state with lastPut := some (sink, .error error) } fromTimer
      refine ⟨_, rfl, waiting, Sound.notified ?_ notified, Awake.notified ?_ notified⟩
      · exact ⟨sound.holds, sound.capacity, sound.runs, sound.lossless, sound.numbered, sound.distinct,
          sound.pending⟩
      · exact .inr (.inr (.inr (.inr ⟨sink, error, isSink, rfl⟩)))
  | ok done =>
      have notTaken := permits rfl
      cases waiting with
      | nil => exact absurd isItem (by simp [notTaken])
      | cons first waiting =>
          obtain rfl : first = item := by simpa [notTaken] using isItem
          obtain ⟨items, removes, holds⟩ := sound.holds.removeFirst
          dsimp only
          rw [removes, ok_bind]
          exact (sound.taken isSink holds _).deliver fromTimer isSink

theorem Sound.setDataSink (sound : Sound maxItems state waiting) (noFrames : state.frames = []) (sink : Option σ) :
    Sound maxItems ({ state with pipe := state.pipe.setDataSink sink }.log (.sink sink)) waiting := by
  have produced : Fifo.produced (state.events ++ [Fifo.Event.sink sink]) = Fifo.produced state.events :=
    (Fifo.produced_append _ _).trans (List.append_nil _)
  have lost : Fifo.lost (state.events ++ [Fifo.Event.sink sink]) = Fifo.lost state.events :=
    (Fifo.lost_append _ _).trans (List.append_nil _)
  refine ⟨⟨sound.holds.size, sound.holds.count, sound.holds.held⟩, sound.capacity, sound.runs.snoc (.sink sink),
    lost.trans sound.lossless, produced.symm ▸ sound.numbered, produced.symm ▸ sound.distinct, ?_⟩
  intro sink' item fromTimer waits
  change _ ∈ state.frames at waits
  rw [noFrames] at waits
  cases waits

theorem Sound.step (sound : Sound maxItems state waiting) (awake : Awake state) {step : PipeStep σ β}
    (comes : Comes state step) (permits : Permits state step) : Kept maxItems (state.step step) := by
  cases step with
  | putData data => exact sound.putData awake data
  | onCanPut => exact sound.onCanPut false
  | setListener hasListener =>
      refine ⟨_, rfl, waiting, ?_, awake⟩
      exact ⟨⟨sound.holds.size, sound.holds.count, sound.holds.held⟩, sound.capacity, sound.runs, sound.lossless,
        sound.numbered, sound.distinct, sound.pending⟩
  | setDataSink sink =>
      refine ⟨_, rfl, waiting, sound.setDataSink comes sink, ?_⟩
      cases sink with
      | none => exact .inr (.inr (.inl rfl))
      | some sink =>
          rcases permits with empty | scheduled | ⟨error, refused⟩
          · exact .inl empty
          · exact .inr (.inl scheduled)
          · exact .inr (.inr (.inr (.inr ⟨sink, error, rfl, refused⟩)))
  | timerFired =>
      have fired : Sound maxItems { state with pipe := { state.pipe with timerScheduled := false } } waiting :=
        ⟨⟨sound.holds.size, sound.holds.count, sound.holds.held⟩, sound.capacity, sound.runs, sound.lossless,
          sound.numbered, sound.distinct, sound.pending⟩
      exact fired.onCanPut true
  | sinkReturns result =>
      obtain ⟨sink, item, fromTimer, frames, isTop⟩ := comes
      obtain ⟨isSink, isItem⟩ := sound.pending sink item fromTimer (by rw [isTop]; exact .head _)
      have popped : Sound maxItems { state with frames := frames } waiting :=
        ⟨sound.holds, sound.capacity, sound.runs, sound.lossless, sound.numbered, sound.distinct,
          fun sink item fromTimer waits => sound.pending sink item fromTimer (by rw [isTop]; exact .tail _ waits)⟩
      simp only [PipeRun.step, isTop]
      refine popped.afterPut fromTimer isSink isItem result ?_
      rintro rfl
      simpa only [Permits, isTop] using permits
  | listenerReturns =>
      obtain ⟨frame, frames, isTop, notPutting⟩ := comes
      have popped : Notified state { state with frames := frames } := by
        refine ⟨rfl, fun sink item fromTimer => ?_⟩
        rw [isTop, List.mem_cons]
        exact ⟨.inr, fun waits => waits.resolve_left (notPutting sink item fromTimer).symm⟩
      have sound' := sound.notified popped
      have awake' := awake.notified popped
      simp only [PipeRun.step, isTop]
      cases frame with
      | putting sink item fromTimer => exact absurd rfl (notPutting sink item fromTimer)
      | notifying fromTimer =>
          have notified := afterOnCanPut_notified { state with frames := frames } fromTimer
          exact ⟨_, rfl, waiting, sound'.notified notified, awake'.notified notified⟩
      | timerNotifying => exact ⟨_, rfl, waiting, sound', awake'⟩

end Invariants

/-- What is expected of a pipe: the buffers that it has accepted are taken by its sinks in their order, each one
    once, up to those that wait in the first slots; and between top-level calls those do not wait in vain
    for a sink that is there. -/
structure Lossless (state : PipeRun σ β) : Prop where
  inOrder : ∃ waiting, state.pipe.Holds waiting ∧ Fifo.taken state.events ++ waiting = Fifo.produced state.events
  once : (Fifo.produced state.events).Nodup
  wakes : state.frames = [] → ∀ sink, state.pipe.sink = some sink → state.pipe.itemCount ≠ 0 →
    state.pipe.timerScheduled = true ∨ ∃ error, state.lastPut = some (sink, .error error)

theorem Sound.delivers {maxItems : Nat} {state : PipeRun σ β} {waiting : List (PipeItem β)}
    (sound : Sound maxItems state waiting) (awake : Awake state) : Lossless state := by
  refine ⟨⟨waiting, sound.holds, sound.runs.lossless sound.lossless⟩, sound.distinct, ?_⟩
  intro noFrames sink isSink some_
  rcases awake with empty | scheduled | noSink | ⟨_, _, _, waits⟩ | ⟨sink', error, isSink', refused⟩
  · exact absurd empty some_
  · exact .inl scheduled
  · rw [isSink] at noSink
    cases noSink
  · rw [noFrames] at waits
    cases waits
  · rw [isSink] at isSink'
    cases isSink'
    exact .inr ⟨error, refused⟩

/-- No buffer is accepted or taken before the sink returns. -/
theorem deliver_events {state state' : PipeRun σ β} {fromTimer : Bool} (goes : state.deliver fromTimer = .ok state') :
    state'.events = state.events := by
  unfold PipeRun.deliver at goes
  split at goes
  · cases goes
    rw [(notify_notified state fromTimer).same]
  · obtain ⟨item, -, goes⟩ := bind_ok goes
    cases isSink : state.pipe.sink with
    | none =>
        rw [isSink] at goes
        cases goes
    | some sink =>
        rw [isSink] at goes
        cases goes
        rfl

theorem permits_of_lossless {state state' : PipeRun σ β} {next : PipeStep σ β} (comes : Comes state next)
    (goes : state.step next = .ok state') (lossless : Lossless state') : Permits state next := by
  cases next with
  | putData | setListener | onCanPut | timerFired | listenerReturns => trivial
  | setDataSink sink =>
      cases sink with
      | none => trivial
      | some sink =>
          cases goes
          by_cases empty : state.pipe.itemCount = 0
          · exact .inl empty
          · exact .inr (lossless.wakes comes sink rfl empty)
  | sinkReturns result =>
      cases result with
      | error => trivial
      | ok =>
          obtain ⟨sink, item, fromTimer, frames, isTop⟩ := comes
          simp only [Permits, isTop]
          intro isTaken
          simp only [step, isTop, afterPut] at goes
          obtain ⟨pipe, -, goes⟩ := bind_ok goes
          obtain ⟨⟨waiting, -, inOrder⟩, once, -⟩ := lossless
          rw [deliver_events goes] at inOrder once
          rw [← inOrder] at once
          change (Fifo.taken (state.events ++ [Fifo.Event.taken sink item]) ++ waiting).Nodup at once
          rw [Fifo.taken_append] at once
          exact (List.nodup_append.mp (List.nodup_append.mp once).1).2.2 item isTaken item (.head _) rfl

/-- A pipe loses nothing, whatever its sinks and its listener do before they return, as long as no sink takes
    a buffer twice from calls inside of each other, and no sink is set for what the timer does not wait for;
    and only so long. -/
theorem buffers_delivered {maxItems : Nat} {pipe : AsyncPipe σ β} (created : AsyncPipe.create maxItems = .ok pipe)
    {steps : List (PipeStep σ β)}
    (follows : Follows step (fun state step => Comes state step ∧ Permits state step) (start pipe) steps) :
    ∃ state, (start pipe).run steps = .ok state ∧ Lossless state ∧ ∀ next, Comes state next →
      ((∃ state', state.step next = .ok state' ∧ Lossless state') ↔ Permits state next) := by
  obtain ⟨holds, capacity, noSink⟩ := AsyncPipe.Holds.create created
  have sound : Sound maxItems (start pipe) [] := by
    refine ⟨holds, capacity, ?_, rfl, fun _ is => (nomatch is), List.nodup_nil, fun _ _ _ waits => (nomatch waits)⟩
    rw [start, noSink]
    exact .nil
  have keeps (state : PipeRun σ β) (step : PipeStep σ β)
      (kept : ∃ waiting, Sound maxItems state waiting ∧ Awake state) (is : Comes state step ∧ Permits state step) :
      Kept maxItems (state.step step) := by
    obtain ⟨waiting, sound, awake⟩ := kept
    exact sound.step awake is.1 is.2
  obtain ⟨state, runs, kept⟩ := follows.run keeps ⟨[], sound, .inl holds.count⟩
  refine ⟨state, runs, kept.elim fun _ kept => kept.1.delivers kept.2, fun next comes => ⟨?_, ?_⟩⟩
  · rintro ⟨state', goes, lossless⟩
    exact permits_of_lossless comes goes lossless
  · intro permits
    obtain ⟨state', goes, waiting, sound', awake⟩ := keeps state next kept ⟨comes, permits⟩
    exact ⟨state', goes, sound'.delivers awake⟩

/-- The sink puts data and calls the pipe before it returns, and the listener puts data too. -/
def nestedSteps : List (PipeStep Nat Nat) :=
  [.setListener true, .putData 10, .setDataSink (some 7), .timerFired, .putData 11, .sinkReturns (.ok ()), .onCanPut,
    .sinkReturns (.error .wouldBlock), .putData 12, .listenerReturns, .sinkReturns (.ok ()),
    .sinkReturns (.error .wouldBlock), .listenerReturns]

theorem nestedSteps_follow : Follows step (fun state step => Comes state step ∧ Permits state step)
    (start ⟨false, none, false, 2, [none, none], 0⟩) nestedSteps := by
  refine .cons rfl ⟨rfl, trivial⟩ (.cons rfl ⟨trivial, trivial⟩ ?_)
  refine .cons rfl ⟨rfl, .inr (.inl rfl)⟩ (.cons rfl ⟨⟨rfl, rfl⟩, trivial⟩ ?_)
  refine .cons rfl ⟨trivial, trivial⟩ (.cons rfl ⟨⟨_, _, _, _, rfl⟩, List.not_mem_nil⟩ ?_)
  refine .cons rfl ⟨trivial, trivial⟩ (.cons rfl ⟨⟨_, _, _, _, rfl⟩, trivial⟩ ?_)
  refine .cons rfl ⟨trivial, trivial⟩ (.cons rfl ⟨⟨_, _, rfl, nofun⟩, trivial⟩ ?_)
  have notTaken : (⟨1, 11⟩ : PipeItem Nat) ∉ [⟨0, 10⟩] := by decide
  refine .cons rfl ⟨⟨_, _, _, _, rfl⟩, notTaken⟩ (.cons rfl ⟨⟨_, _, _, _, rfl⟩, trivial⟩ ?_)
  exact .cons rfl ⟨⟨_, _, rfl, nofun⟩, trivial⟩ trivial

theorem buffers_delivered_nested : ∃ state,
    (start ⟨false, none, false, 2, [none, none], 0⟩).run nestedSteps = .ok state ∧ Lossless state ∧
      Fifo.taken state.events = [⟨0, 10⟩, ⟨1, 11⟩] ∧ state.pipe.itemCount = 1 := by
  obtain ⟨state, runs, lossless, -⟩ := @buffers_delivered Nat Nat 2 _ rfl _ nestedSteps_follow
  refine ⟨state, runs, lossless, ?_⟩
  cases runs
  exact ⟨rfl, rfl⟩

/-- A sink that calls the pipe before it takes a buffer gets it twice, and another buffer is dropped for it. And
    a buffer that the timer has fired for waits for ever if the sink is set after that. -/
theorem nested_call_drops :
    ∃ (pipe : AsyncPipe Nat Nat) (steps late : List (PipeStep Nat Nat)) (state waits : PipeRun Nat Nat),
    AsyncPipe.create 2 = .ok pipe ∧
    Follows step Comes (start pipe) steps ∧ (start pipe).run steps = .ok state ∧
    Fifo.produced state.events = [⟨0, 10⟩, ⟨1, 11⟩] ∧ Fifo.taken state.events = [⟨0, 10⟩, ⟨0, 10⟩] ∧
    state.pipe.itemCount = 0 ∧
    Follows step Comes (start pipe) late ∧ (start pipe).run late = .ok waits ∧ ¬ Lossless waits := by
  refine ⟨⟨false, none, false, 2, [none, none], 0⟩, [.putData 10, .putData 11, .setDataSink (some 7), .timerFired,
    .onCanPut, .sinkReturns (.ok ()), .sinkReturns (.error .wouldBlock), .sinkReturns (.ok ())],
    [.putData 10, .timerFired, .setDataSink (some 7)], _, _, rfl, ?_, rfl, rfl, rfl, rfl, ?_, rfl, ?_⟩
  · refine .cons rfl trivial (.cons rfl trivial (.cons rfl rfl (.cons rfl ⟨rfl, rfl⟩ (.cons rfl trivial ?_))))
    exact .cons rfl ⟨_, _, _, _, rfl⟩ (.cons rfl ⟨_, _, _, _, rfl⟩ (.cons rfl ⟨_, _, _, _, rfl⟩ trivial))
  · exact .cons rfl trivial (.cons rfl ⟨rfl, rfl⟩ (.cons rfl rfl trivial))
  · intro lossless
    rcases lossless.wakes rfl 7 rfl (Nat.succ_ne_zero _) with scheduled | ⟨error, refused⟩
    · cases scheduled
    · cases refused

end PipeRun

end GoldenGate
