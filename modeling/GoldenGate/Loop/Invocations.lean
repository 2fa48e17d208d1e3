import GoldenGate.Loop.Messages

/-! # What a loop makes of its messages

Whatever the threads do: each message that was posted is handled once, in the order of the posts; a post fails only
when there was no free item in time or the loop could not be woken up; and a call of `InvokeSync` returns the result of
its own function, which the loop has invoked once, unless a wakeup has failed for such a call.
-/

namespace GoldenGate.LoopBase

open Monitors

variable {ι Φ ω : Type}

/-! ## What holds of the memory -/

/-- What a thread knows in its phase. -/
def Fits (program : Program ι Φ ω) (messageItems : Nat → Option Message) (thread : ι) : Phase Φ → Prop
  | .take message _ none => message ≠ .invokeSync
  | .take message timeout (some _) => message = .invokeSync ∧ timeout = timeoutInfinite
  | .put message item sync => messageItems item = some message ∧ (sync = none ↔ message ≠ .invokeSync)
  | .giveBack _ _ => False
  | .process _ => thread = program.loopThread
  | .handle _ _ => thread = program.loopThread
  | .release _ => thread = program.loopThread
  | .recycle _ => thread = program.loopThread
  | _ => True

/-- Where `InvokeSync` is: how often its message is queued or about to be handled, how often it was handled and the
    result has not been taken, and what is known of the functions. -/
structure Sync (Φ : Type) where
  unhandled : Nat
  done : Nat
  function : Option Φ
  functionResult : Int
  invoked : List (Φ × Int)
  results : List (Φ × Int)
  notWoken : List Φ

/-- No message of `InvokeSync` is under way. -/
def Sync.Quiet (sync : Sync Φ) : Prop := sync.unhandled = 0 ∧ sync.done = 0 ∧ sync.invoked = sync.results

/-- The message of `InvokeSync` is not handled, or the result is there. -/
def Sync.Waits (sync : Sync Φ) (function : Φ) : Prop :=
  sync.function = some function ∧
    ((sync.unhandled = 1 ∧ sync.done = 0 ∧ sync.invoked = sync.results) ∨
      (sync.unhandled = 0 ∧ sync.done = 1 ∧ sync.invoked = sync.results ++ [(function, sync.functionResult)]))

/-- What holds when a thread with some phase has the mutex, or no thread has it. -/
def Stage (sync : Sync Φ) : Option (Phase Φ) → Prop
  | none => sync.Quiet
  | some (.take _ _ (some function)) => sync.function = some function ∧ sync.Quiet
  | some (.put _ _ (some function)) => sync.function = some function ∧ sync.Quiet
  | some (.wakeup (some function)) => sync.Waits function
  | some (.acquire function) => sync.Waits function
  | some (.unlock function (some result)) =>
      sync.unhandled = 0 ∧ sync.done = 0 ∧ sync.invoked = sync.results ++ [(function, result)]
  | some _ => False

/-- There is a function for the message of `InvokeSync`; and the stage is as it should be, if the loop was woken up for
    each of its calls. -/
structure Knows (sync : Sync Φ) (holder : Option (Phase Φ)) : Prop where
  function : holder.isSome = true ∨ sync.unhandled ≠ 0 → sync.function.isSome = true
  stage : sync.notWoken = [] → Stage sync holder

def Phase.releasing : Phase Φ → Nat
  | .release _ => 1
  | _ => 0

/-- The messages that are not handled: that of the thread of the loop, and those in the queue. -/
def Memory.unhandled (self : Memory ι Φ ω) (program : Program ι Φ ω) (values : Values) : List Message :=
  (self.phases program.loopThread).message ++ values.queue.items.filterMap self.messageItems

def Memory.sync (self : Memory ι Φ ω) (program : Program ι Φ ω) (values : Values) : Sync Φ where
  unhandled := (self.unhandled program values).count .invokeSync
  done := (self.phases program.loopThread).releasing + values.semaphore
  function := self.invokeFunction
  functionResult := self.functionResult
  invoked := self.invoked
  results := self.results
  notWoken := self.notWoken

/-- At most one thread has the mutex. -/
def Holds (phases : ι → Phase Φ) (holder : Option ι) : Prop := ∀ thread, (phases thread).hasMutex = true ↔ holder = some thread

/-- The mutex is locked while a thread has it, and `InvokeSync` is where that thread is. -/
def Synced (phases : ι → Phase Φ) (locked : Bool) (sync : Sync Φ) : Prop :=
  ∃ holder, Holds phases holder ∧ locked = holder.isSome ∧ Knows sync (holder.map phases)

/-- The items are in the pool, in the queue or with one thread; those in the queue have a message; and each message
    that was posted is handled, or not yet, in this order. -/
structure Sound (program : Program ι Φ ω) (length : Nat) (values : Values) (memory : Memory ι Φ ω) : Prop where
  bounds : values.pool.maxItems = length ∧ values.queue.maxItems = length
  tokens : Tokens length (values.pool.items ++ values.queue.items) fun thread => (memory.phases thread).held
  fits : ∀ thread, Fits program memory.messageItems thread (memory.phases thread)
  carried : ∀ item ∈ values.queue.items, (memory.messageItems item).isSome
  ordered : memory.posted = memory.handled ++ memory.unhandled program values
  synced : Synced memory.phases values.locked (memory.sync program values)

section Steps

variable [DecidableEq ι] {program : Program ι Φ ω} {length : Nat} {values : Values} {self : Memory ι Φ ω} {thread : ι}
  {phase : Phase Φ}

/-! ### One thread goes on -/

section Goes

variable {phases : ι → Phase Φ} {holder : Option ι}

theorem Holds.same (holds : Holds phases holder) (same : phase.hasMutex = (phases thread).hasMutex) :
    Holds (Function.update phases thread phase) holder := by
  intro other
  by_cases own : other = thread
  · rw [own, Function.update_self, same]
    exact holds thread
  · rw [Function.update_of_ne own]
    exact holds other

theorem Holds.lock (holds : Holds phases none) (has : phase.hasMutex = true) :
    Holds (Function.update phases thread phase) (some thread) := by
  intro other
  by_cases own : other = thread
  · rw [own, Function.update_self]
    exact ⟨fun _ => rfl, fun _ => has⟩
  · rw [Function.update_of_ne own]
    have nobody := holds other
    constructor
    · intro is
      cases nobody.mp is
    · intro is
      exact absurd (Option.some.inj is).symm own

theorem Holds.unlock (holds : Holds phases (some thread)) (hasNot : phase.hasMutex = false) :
    Holds (Function.update phases thread phase) none := by
  intro other
  by_cases own : other = thread
  · rw [own, Function.update_self, hasNot]
    constructor <;>
      · intro is
        cases is
  · rw [Function.update_of_ne own]
    constructor
    · intro is
      exact absurd (Option.some.inj ((holds other).mp is)).symm own
    · intro is
      cases is

/-- The phase of the holder, if a thread without the mutex goes on. -/
theorem Holds.map_update (holds : Holds phases holder) (hasNot : (phases thread).hasMutex = false) :
    holder.map (Function.update phases thread phase) = holder.map phases := by
  cases holder with
  | none => rfl
  | some other =>
      rw [Option.map_some, Option.map_some, Function.update_of_ne]
      rintro rfl
      rw [(holds other).mpr rfl] at hasNot
      cases hasNot

/-- A thread without the mutex goes on. -/
theorem Synced.other {locked : Bool} {sync sync' : Sync Φ} (synced : Synced phases locked sync)
    (hasNot : (phases thread).hasMutex = false) (hasNotNow : phase.hasMutex = false)
    (stage : ∀ holder, Knows sync holder → Knows sync' holder) :
    Synced (Function.update phases thread phase) locked sync' := by
  obtain ⟨holder, holds, isLocked, known⟩ := synced
  refine ⟨holder, holds.same (hasNotNow.trans hasNot.symm), isLocked, ?_⟩
  rw [holds.map_update hasNot]
  exact stage _ known

omit [DecidableEq ι] in
theorem Synced.known {locked : Bool} {sync : Sync Φ} (synced : Synced phases locked sync)
    (has : (phases thread).hasMutex = true) :
    Holds phases (some thread) ∧ locked = true ∧ Knows sync (some (phases thread)) := by
  obtain ⟨holder, holds, isLocked, known⟩ := synced
  obtain rfl := (holds thread).mp has
  exact ⟨holds, isLocked, known⟩

/-- The thread with the mutex goes on. -/
theorem Synced.same {locked : Bool} {sync sync' : Sync Φ} (synced : Synced phases locked sync)
    (has : (phases thread).hasMutex = true) (hasNow : phase.hasMutex = true)
    (stage : Knows sync (some (phases thread)) → Knows sync' (some phase)) :
    Synced (Function.update phases thread phase) locked sync' := by
  obtain ⟨holds, isLocked, known⟩ := synced.known has
  refine ⟨some thread, holds.same (hasNow.trans has.symm), isLocked, ?_⟩
  rw [Option.map_some, Function.update_self]
  exact stage known

/-- A thread gets the mutex. -/
theorem Synced.lock {sync sync' : Sync Φ} (synced : Synced phases false sync) (has : phase.hasMutex = true)
    (stage : Knows sync none → Knows sync' (some phase)) : Synced (Function.update phases thread phase) true sync' := by
  obtain ⟨holder, holds, isLocked, known⟩ := synced
  cases holder with
  | some => cases isLocked
  | none =>
      refine ⟨some thread, holds.lock has, rfl, ?_⟩
      rw [Option.map_some, Function.update_self]
      exact stage known

/-- The thread with the mutex gives it back. -/
theorem Synced.unlock {locked : Bool} {sync sync' : Sync Φ} (synced : Synced phases locked sync)
    (has : (phases thread).hasMutex = true) (hasNot : phase.hasMutex = false)
    (stage : Knows sync (some (phases thread)) → Knows sync' none) :
    Synced (Function.update phases thread phase) false sync' := by
  obtain ⟨holds, -, known⟩ := synced.known has
  exact ⟨none, holds.unlock hasNot, rfl, stage known⟩

theorem Sync.Waits.handled {sync : Sync Φ} {function other : Φ} {unhandled : Nat} (known : sync.Waits other)
    (waits : sync.unhandled = unhandled + 1) (isFunction : sync.function = some function) (result : Int) :
    Sync.Waits ⟨unhandled, sync.done + 1, sync.function, result, sync.invoked ++ [(function, result)], sync.results,
      sync.notWoken⟩ other := by
  obtain ⟨isOther, ⟨one, done, same⟩ | ⟨never, -⟩⟩ := known
  · obtain rfl := Option.some.inj (isOther.symm.trans isFunction)
    refine ⟨isOther, .inr ⟨?_, ?_, ?_⟩⟩
    · change unhandled = 0
      omega
    · change sync.done + 1 = 1
      omega
    · exact congrArg (· ++ _) same
  · omega

/-- The message of `InvokeSync` is handled only while a thread waits for that. -/
theorem Stage.handled {sync : Sync Φ} {holder : Option (Phase Φ)} {function : Φ} {unhandled : Nat}
    (stage : Stage sync holder) (waits : sync.unhandled = unhandled + 1) (isFunction : sync.function = some function)
    (result : Int) :
    Stage ⟨unhandled, sync.done + 1, sync.function, result, sync.invoked ++ [(function, result)], sync.results,
      sync.notWoken⟩ holder := by
  have never (none_ : sync.unhandled = 0) : False := by omega
  cases holder with
  | none => exact (never stage.1).elim
  | some phase =>
      cases phase with
      | acquire other => exact Sync.Waits.handled stage waits isFunction result
      | wakeup sync =>
          cases sync with
          | none => exact stage.elim
          | some other => exact Sync.Waits.handled stage waits isFunction result
      | take message timeout sync | put message item sync =>
          cases sync with
          | none => exact stage.elim
          | some function => exact (never stage.2.1).elim
      | unlock function result =>
          cases result with
          | none => exact stage.elim
          | some result => exact (never stage.1).elim
      | idle | lock | giveBack | process | handle | release | recycle => exact stage.elim

theorem Knows.handled {sync : Sync Φ} {holder : Option (Phase Φ)} {unhandled : Nat} (known : Knows sync holder)
    (waits : sync.unhandled = unhandled + 1) :
    ∃ function, sync.function = some function ∧ ∀ result, Knows ⟨unhandled, sync.done + 1, sync.function, result,
      sync.invoked ++ [(function, result)], sync.results, sync.notWoken⟩ holder := by
  have isThere : sync.function.isSome = true := known.function (.inr (by omega))
  obtain ⟨function, isFunction⟩ := Option.isSome_iff_exists.mp isThere
  exact ⟨function, isFunction, fun result =>
    ⟨fun _ => isThere, fun woken => (known.stage woken).handled waits isFunction result⟩⟩

/-- Only the thread with the mutex may have a result that its call has not returned. -/
theorem Stage.invoked {sync : Sync Φ} (stage : Stage sync (some phase)) :
    sync.invoked = sync.results ∨ ∃ function result, sync.invoked = sync.results ++ [(function, result)] ∧
      (phase = .wakeup (some function) ∨ phase = .acquire function ∨ phase = .unlock function (some result)) := by
  cases phase with
  | acquire function =>
      obtain ⟨-, ⟨-, -, same⟩ | ⟨-, -, one⟩⟩ := stage
      · exact .inl same
      · exact .inr ⟨function, sync.functionResult, one, .inr (.inl rfl)⟩
  | wakeup waits =>
      cases waits with
      | none => exact stage.elim
      | some function =>
          obtain ⟨-, ⟨-, -, same⟩ | ⟨-, -, one⟩⟩ := stage
          · exact .inl same
          · exact .inr ⟨function, sync.functionResult, one, .inl rfl⟩
  | take message timeout sync | put message item sync =>
      cases sync with
      | none => exact stage.elim
      | some function => exact .inl stage.2.2.2
  | unlock function result =>
      cases result with
      | none => exact stage.elim
      | some result => exact .inr ⟨function, result, stage.2.2, .inr (.inr rfl)⟩
  | idle | lock | giveBack | process | handle | release | recycle => exact stage.elim

variable (thread phase) in
/-- The thread of the loop has handled the message of `InvokeSync`. -/
theorem Synced.handled {locked : Bool} {sync : Sync Φ} {unhandled : Nat} (synced : Synced phases locked sync)
    (waits : sync.unhandled = unhandled + 1) (hasNot : (phases thread).hasMutex = false)
    (hasNotNow : phase.hasMutex = false) :
    ∃ function, sync.function = some function ∧ ∀ result, Synced (Function.update phases thread phase) locked
      ⟨unhandled, sync.done + 1, sync.function, result, sync.invoked ++ [(function, result)], sync.results,
        sync.notWoken⟩ := by
  obtain ⟨holder, holds, isLocked, known⟩ := synced
  obtain ⟨function, isFunction, knows⟩ := known.handled waits
  refine ⟨function, isFunction, ?_⟩
  intro result
  refine ⟨holder, holds.same (hasNotNow.trans hasNot.symm), isLocked, ?_⟩
  rw [holds.map_update hasNot]
  exact knows result

theorem held_update_of_ne {other : ι} (ne : other ≠ thread) :
    (Function.update phases thread phase other).held = (phases other).held := by rw [Function.update_of_ne ne]

theorem held_update_self : (Function.update phases thread phase thread).held = phase.held := by
  rw [Function.update_self]

/-- Nothing changes for the thread of the loop, if the thread that goes on has the same to do for it. -/
theorem update_loopThread {β : Type} (does : Phase Φ → β) (same : does phase = does (phases thread)) (loopThread : ι) :
    does (Function.update phases thread phase loopThread) = does (phases loopThread) := by
  by_cases own : loopThread = thread
  · rw [own, Function.update_self, same]
  · rw [Function.update_of_ne own]

end Goes

/-- The others know what they knew, if no item of theirs has changed. -/
theorem fits_update {messageItems messageItems' : Nat → Option Message}
    (fits : ∀ thread, Fits program messageItems thread (self.phases thread)) (own : Fits program messageItems' thread phase)
    (kept : ∀ other item, other ≠ thread → (self.phases other).held = some item → messageItems' item = messageItems item)
    (other : ι) : Fits program messageItems' other (Function.update self.phases thread phase other) := by
  by_cases is : other = thread
  · subst is
    rw [Function.update_self]
    exact own
  · rw [Function.update_of_ne is]
    have knew := fits other
    cases there : self.phases other with
    | put message item sync =>
        rw [there] at knew
        refine ⟨?_, knew.2⟩
        rw [kept other item is (by rw [there]; rfl)]
        exact knew.1
    | take message timeout sync =>
        rw [there] at knew
        cases sync <;> exact knew
    | _ =>
        rw [there] at knew
        exact knew

/-- The messages of a queue, if none of its items has changed. -/
theorem filterMap_update {messageItems : Nat → Option Message} {items : List Nat} {item : Nat} (notIn : item ∉ items)
    (message : Option Message) :
    items.filterMap (Function.update messageItems item message) = items.filterMap messageItems := by
  apply List.filterMap_congr
  intro other member
  apply Function.update_of_ne
  rintro rfl
  exact notIn member

/-! ### Each phase -/

omit [DecidableEq ι] in
theorem Sound.failed (sound : Sound program length values self) (failures : List Error) :
    Sound program length values { self with failures := failures } := { sound with }

omit [DecidableEq ι] in
theorem Sound.fitsIn (sound : Sound program length values self) (is : self.phases thread = phase) :
    Fits program self.messageItems thread phase := is ▸ sound.fits thread

omit [DecidableEq ι] in
/-- Where `InvokeSync` is, from a thread that is in it. -/
theorem Sound.known (sound : Sound program length values self) (is : self.phases thread = phase)
    (has : phase.hasMutex = true) : Knows (self.sync program values) (some phase) := by
  subst is
  exact (sound.synced.known has).2.2

/-- One thread goes on, with what is then unhandled and done. -/
theorem Sound.goes {values' : Values} {self' : Memory ι Φ ω} (sound : Sound program length values self)
    (phases : self'.phases = Function.update self.phases thread phase) (messages : List Message) (done : Nat)
    (unhandled : self'.unhandled program values' = messages)
    (isDone : (self'.phases program.loopThread).releasing + values'.semaphore = done)
    (bounds : values'.pool.maxItems = values.pool.maxItems ∧ values'.queue.maxItems = values.queue.maxItems)
    (tokens : Tokens length (values'.pool.items ++ values'.queue.items) fun other =>
      (Function.update self.phases thread phase other).held)
    (fits : Fits program self'.messageItems thread phase)
    (kept : ∀ other item, other ≠ thread → (self.phases other).held = some item →
      self'.messageItems item = self.messageItems item)
    (carried : ∀ item ∈ values'.queue.items, (self'.messageItems item).isSome)
    (ordered : self'.posted = self'.handled ++ messages)
    (synced : Synced (Function.update self.phases thread phase) values'.locked
      ⟨messages.count .invokeSync, done, self'.invokeFunction, self'.functionResult, self'.invoked, self'.results,
        self'.notWoken⟩) :
    Sound program length values' self' := by
  refine ⟨?_, ?_, ?_, carried, ?_, ?_⟩
  · exact ⟨bounds.1.trans sound.bounds.1, bounds.2.trans sound.bounds.2⟩
  · rw [phases]
    exact tokens
  · rw [phases]
    exact fits_update sound.fits fits kept
  · rw [unhandled]
    exact ordered
  · unfold Memory.sync
    rw [unhandled, isDone, phases]
    exact synced

/-- A thread goes on, and has the same to do for the loop. -/
theorem Sound.passes {pool queue : SharedQueue.Bounded Nat} {locked locked' : Bool} {semaphore semaphore' : Nat}
    {self' : Memory ι Φ ω} (sound : Sound program length ⟨pool, queue, locked, semaphore⟩ self)
    (phases : self'.phases = Function.update self.phases thread phase)
    (does : phase.message = (self.phases thread).message ∧ phase.releasing = (self.phases thread).releasing ∧
      phase.held = (self.phases thread).held)
    (same : self'.messageItems = self.messageItems ∧ self'.posted = self.posted ∧ self'.handled = self.handled)
    (fits : Fits program self.messageItems thread phase)
    (synced : Synced (Function.update self.phases thread phase) locked'
      ⟨(self.unhandled program ⟨pool, queue, locked, semaphore⟩).count .invokeSync,
        (self.phases program.loopThread).releasing + semaphore', self'.invokeFunction, self'.functionResult, self'.invoked,
        self'.results, self'.notWoken⟩) : Sound program length ⟨pool, queue, locked', semaphore'⟩ self' := by
  obtain ⟨message, releasing, held⟩ := does
  obtain ⟨items, posted, handled⟩ := same
  apply sound.goes phases (self.unhandled program ⟨pool, queue, locked, semaphore⟩)
    ((self.phases program.loopThread).releasing + semaphore')
  · unfold Memory.unhandled
    rw [phases, items]
    exact congrArg (· ++ _) (update_loopThread Phase.message message _)
  · rw [phases]
    exact congrArg (· + _) (update_loopThread Phase.releasing releasing _)
  · exact ⟨rfl, rfl⟩
  · apply sound.tokens.congr
    intro other
    exact update_loopThread Phase.held held other
  · rw [items]
    exact fits
  · intro _ item _ _
    rw [items]
  · rw [items]
    exact sound.carried
  · rw [posted, handled]
    exact sound.ordered
  · exact synced

/-- A thread goes on that has no item and no mutex, and gets none. -/
theorem Sound.moves (sound : Sound program length values self) (held : (self.phases thread).held = none)
    (heldNow : phase.held = none) (hasNot : (self.phases thread).hasMutex = false) (hasNotNow : phase.hasMutex = false)
    (fits : Fits program self.messageItems thread phase) : Sound program length values (self.goto thread phase) := by
  have quiet {phase : Phase Φ} (held : phase.held = none) : phase.message = [] ∧ phase.releasing = 0 := by
    cases phase <;> cases held <;> exact ⟨rfl, rfl⟩
  obtain ⟨message, releasing⟩ := quiet held
  obtain ⟨messageNow, releasingNow⟩ := quiet heldNow
  refine sound.passes rfl ⟨messageNow.trans message.symm, releasingNow.trans releasing.symm, heldNow.trans held.symm⟩
    ⟨rfl, rfl, rfl⟩ fits ?_
  exact sound.synced.other hasNot hasNotNow fun _ known => known

section Objects

variable {pool queue : SharedQueue.Bounded Nat} {locked : Bool} {maxItems item semaphore : Nat} {items : List Nat}
  {message : Message} {timeout : UInt64} {sync : Option Φ} {function : Φ}

/-- `InvokeSync` has the mutex. -/
theorem Sound.lock (sound : Sound program length ⟨pool, queue, false, semaphore⟩ self)
    (is : self.phases thread = .lock function) :
    Sound program length ⟨pool, queue, true, semaphore⟩
      ({ self with invokeFunction := some function }.goto thread
        (.take .invokeSync timeoutInfinite (some function))) := by
  refine sound.passes rfl (by rw [is]; exact ⟨rfl, rfl, rfl⟩) ⟨rfl, rfl, rfl⟩ ⟨rfl, rfl⟩ ?_
  apply sound.synced.lock rfl
  intro known
  exact ⟨fun _ => rfl, fun woken => ⟨rfl, known.stage woken⟩⟩

/-- `PostMessage` has an item. -/
theorem Sound.take (sound : Sound program length ⟨⟨maxItems, item :: items⟩, queue, locked, semaphore⟩ self)
    (is : self.phases thread = .take message timeout sync) :
    Sound program length ⟨⟨maxItems, items⟩, queue, locked, semaphore⟩
      ({ self with messageItems := Function.update self.messageItems item (some message) }.goto thread
        (.put message item sync)) := by
  have tokens := sound.tokens
  have notQueued : item ∉ queue.items := by
    intro member
    exact (List.nodup_cons.mp tokens.nodup).1 (List.mem_append_right _ member)
  have fits := sound.fitsIn is
  apply sound.goes rfl (self.unhandled program ⟨⟨maxItems, items⟩, queue, locked, semaphore⟩)
    ((self.phases program.loopThread).releasing + semaphore)
  · exact congrArg₂ (· ++ ·) (update_loopThread Phase.message (by rw [is]; rfl) _) (filterMap_update notQueued _)
  · exact congrArg (· + _) (update_loopThread Phase.releasing (by rw [is]; rfl) _)
  · exact ⟨rfl, rfl⟩
  · exact tokens.take (by rw [is]; rfl) held_update_self fun _ ne => held_update_of_ne ne
  · refine ⟨Function.update_self .., ?_⟩
    cases sync with
    | none => exact ⟨fun _ => fits, fun _ => rfl⟩
    | some function =>
        constructor
        · intro no
          cases no
        · exact fun ne => absurd fits.1 ne
  · intro other item' _ holds
    apply Function.update_of_ne
    rintro rfl
    exact tokens.notFree other _ holds List.mem_cons_self
  · intro other member
    change (Function.update self.messageItems item (some message) other).isSome
    rw [Function.update_of_ne]
    · exact sound.carried other member
    · rintro rfl
      exact notQueued member
  · exact sound.ordered
  · cases sync with
    | none => exact sound.synced.other (by rw [is]; rfl) rfl fun _ known => known
    | some function =>
        apply sound.synced.same (by rw [is]; rfl) rfl
        rw [is]
        exact fun known => ⟨known.function, known.stage⟩

/-- `PostMessage` has no item, which happens only to other messages. -/
theorem Sound.noItem (sound : Sound program length values self) (is : self.phases thread = .take message timeout sync)
    (finite : timeout ≠ timeoutInfinite) :
    sync = none ∧ Sound program length values (self.goto thread .idle) := by
  cases sync with
  | none => exact ⟨rfl, sound.moves (by rw [is]; rfl) rfl (by rw [is]; rfl) rfl trivial⟩
  | some function =>
      have fits := sound.fitsIn is
      exact absurd fits.2 finite

/-- `PostMessage` has queued the item. -/
theorem Sound.put (sound : Sound program length ⟨pool, ⟨maxItems, items⟩, locked, semaphore⟩ self)
    (is : self.phases thread = .put message item sync) :
    Sound program length ⟨pool, ⟨maxItems, items ++ [item]⟩, locked, semaphore⟩
      ({ self with posted := self.posted ++ [message] }.goto thread (.wakeup sync)) := by
  have fits := sound.fitsIn is
  obtain ⟨carries, notSync⟩ := fits
  apply sound.goes rfl (self.unhandled program ⟨pool, ⟨maxItems, items⟩, locked, semaphore⟩ ++ [message])
    ((self.phases program.loopThread).releasing + semaphore)
  · have queued : (items ++ [item]).filterMap self.messageItems = items.filterMap self.messageItems ++ [message] := by
      rw [List.filterMap_append]
      simp [carries]
    refine (congrArg₂ (· ++ ·) (update_loopThread Phase.message ?_ _) queued).trans (List.append_assoc ..).symm
    rw [is]
    cases sync <;> rfl
  · refine congrArg (· + _) (update_loopThread Phase.releasing ?_ _)
    rw [is]
    cases sync <;> rfl
  · exact ⟨rfl, rfl⟩
  · refine (sound.tokens.give (by rw [is]; rfl) (held_update_self.trans ?_) fun _ ne => held_update_of_ne ne).perm ?_
    · cases sync <;> rfl
    · change (item :: (pool.items ++ items)).Perm (pool.items ++ (items ++ [item]))
      rw [← List.append_assoc]
      exact (List.perm_append_singleton _ _).symm
  · cases sync <;> trivial
  · exact fun _ _ _ _ => rfl
  · intro other member
    obtain member | last := List.mem_append.mp member
    · exact sound.carried other member
    · obtain rfl := List.mem_singleton.mp last
      change (self.messageItems other).isSome
      rw [carries]
      rfl
  · change self.posted ++ [message] = self.handled ++ _
    rw [sound.ordered, List.append_assoc]
  · cases sync with
    | none =>
        have same : List.count .invokeSync (self.unhandled program ⟨pool, ⟨maxItems, items⟩, locked, semaphore⟩ ++ [message]) =
            List.count .invokeSync (self.unhandled program ⟨pool, ⟨maxItems, items⟩, locked, semaphore⟩) := by
          rw [List.count_append, List.count_singleton, if_neg, Nat.add_zero]
          simpa using notSync.mp rfl
        rw [same]
        exact sound.synced.other (by rw [is]; rfl) rfl fun _ known => known
    | some function =>
        obtain rfl : message = .invokeSync := by
          by_contra ne
          cases notSync.mpr ne
        apply sound.synced.same (by rw [is]; rfl) rfl
        rw [is]
        intro known
        refine ⟨fun _ => known.function (.inl rfl), ?_⟩
        intro woken
        obtain ⟨isFunction, unhandled, done, same⟩ := known.stage woken
        refine ⟨isFunction, .inl ⟨?_, done, same⟩⟩
        rw [List.count_append]
        change _ + 1 = 1
        rw [Nat.add_eq_right]
        exact unhandled

/-- The loop is woken up. -/
theorem Sound.woken (sound : Sound program length ⟨pool, queue, locked, semaphore⟩ self)
    (is : self.phases thread = .wakeup sync) :
    Sound program length ⟨pool, queue, locked, semaphore⟩ (self.goto thread (.posted sync)) := by
  cases sync with
  | none => exact sound.moves (by rw [is]; rfl) rfl (by rw [is]; rfl) rfl trivial
  | some function =>
      refine sound.passes rfl (by rw [is]; exact ⟨rfl, rfl, rfl⟩) ⟨rfl, rfl, rfl⟩ trivial ?_
      apply sound.synced.same (by rw [is]; rfl) rfl
      rw [is]
      exact fun known => ⟨known.function, known.stage⟩

/-- The loop could not be woken up. -/
theorem Sound.notWoken (sound : Sound program length ⟨pool, queue, locked, semaphore⟩ self)
    (is : self.phases thread = .wakeup sync) (failures : List Error) :
    Sound program length ⟨pool, queue, locked, semaphore⟩
      ({ self with failures := failures, notWoken := self.notWoken ++ sync.toList }.goto thread (.failed sync)) := by
  cases sync with
  | none =>
      refine sound.passes rfl (by rw [is]; exact ⟨rfl, rfl, rfl⟩) ⟨rfl, rfl, rfl⟩ trivial ?_
      refine sound.synced.other (by rw [is]; rfl) rfl fun _ known => ⟨known.function, ?_⟩
      exact fun woken => known.stage ((List.append_nil _).symm.trans woken)
  | some function =>
      refine sound.passes rfl (by rw [is]; exact ⟨rfl, rfl, rfl⟩) ⟨rfl, rfl, rfl⟩ trivial ?_
      apply sound.synced.same (by rw [is]; rfl) rfl
      rw [is]
      refine fun known => ⟨known.function, ?_⟩
      exact fun woken => absurd woken (List.append_ne_nil_of_right_ne_nil _ (List.cons_ne_nil _ _))

/-- `ProcessMessage` has an item. -/
theorem Sound.get (sound : Sound program length ⟨pool, ⟨maxItems, item :: items⟩, locked, semaphore⟩ self)
    (is : self.phases thread = .process timeout) :
    ∃ message, self.messageItems item = some message ∧
      Sound program length ⟨pool, ⟨maxItems, items⟩, locked, semaphore⟩ (self.goto thread (.handle item message)) := by
  obtain ⟨message, carries⟩ := Option.isSome_iff_exists.mp (sound.carried item List.mem_cons_self)
  have isLoop : thread = program.loopThread := sound.fitsIn is
  have nothing : (self.phases program.loopThread).message = [] := by
    rw [← isLoop, is]
    rfl
  refine ⟨message, carries, ?_⟩
  apply sound.goes rfl (self.unhandled program ⟨pool, ⟨maxItems, item :: items⟩, locked, semaphore⟩)
    ((self.phases program.loopThread).releasing + semaphore)
  · have now : (Function.update self.phases thread (.handle item message) program.loopThread).message = [message] := by
      rw [isLoop, Function.update_self]
      rfl
    have queued : (item :: items).filterMap self.messageItems = message :: items.filterMap self.messageItems :=
      List.filterMap_cons_some carries
    refine (congrArg (· ++ items.filterMap self.messageItems) now).trans ?_
    exact (congrArg₂ (· ++ ·) nothing queued).symm
  · exact congrArg (· + _) (update_loopThread Phase.releasing (by rw [is]; rfl) _)
  · exact ⟨rfl, rfl⟩
  · have tokens : Tokens length (item :: (pool.items ++ items)) fun other => (self.phases other).held :=
      sound.tokens.perm List.perm_middle
    exact tokens.take (by rw [is]; rfl) held_update_self fun _ ne => held_update_of_ne ne
  · exact isLoop
  · exact fun _ _ _ _ => rfl
  · exact fun other member => sound.carried other (List.mem_cons_of_mem _ member)
  · exact sound.ordered
  · exact sound.synced.other (by rw [is]; rfl) rfl fun _ known => known

/-- The loop has handled another message. -/
theorem Sound.handleOther {world : ω} {message : Nat} (sound : Sound program length values self)
    (is : self.phases thread = .handle item (.other message)) :
    Sound program length values
      ({ self with
        world := world
        messageItems := Function.update self.messageItems item none
        handled := self.handled ++ [Message.other message] }.goto thread (.recycle item)) := by
  have holds : (self.phases thread).held = some item := by rw [is]; rfl
  have notQueued : item ∉ values.queue.items := by
    intro member
    exact sound.tokens.notFree thread item holds (List.mem_append_right _ member)
  have isLoop : thread = program.loopThread := sound.fitsIn is
  have before : self.unhandled program values = Message.other message :: values.queue.items.filterMap self.messageItems := by
    rw [Memory.unhandled, ← isLoop, is]
    rfl
  apply sound.goes rfl (values.queue.items.filterMap self.messageItems)
    ((self.phases program.loopThread).releasing + values.semaphore)
  · have now : (Function.update self.phases thread (.recycle item) program.loopThread).message = [] := by
      rw [isLoop, Function.update_self]
      rfl
    exact congrArg₂ (· ++ ·) now (filterMap_update notQueued none)
  · exact congrArg (· + _) (update_loopThread Phase.releasing (by rw [is]; rfl) _)
  · exact ⟨rfl, rfl⟩
  · apply sound.tokens.congr
    intro other
    exact update_loopThread Phase.held (by rw [is]; rfl) other
  · exact isLoop
  · intro other item' ne holds'
    apply Function.update_of_ne
    rintro rfl
    exact ne (sound.tokens.unique other thread item' holds' holds)
  · intro other member
    change (Function.update self.messageItems item none other).isSome
    rw [Function.update_of_ne]
    · exact sound.carried other member
    · rintro rfl
      exact notQueued member
  · have ordered := sound.ordered
    rw [before] at ordered
    exact ordered.trans (List.append_cons ..)
  · have same : (self.unhandled program values).count .invokeSync =
        (values.queue.items.filterMap self.messageItems).count .invokeSync := by
      rw [before, List.count_cons_of_ne (by rintro is; cases is)]
    rw [← same]
    exact sound.synced.other (by rw [is]; rfl) rfl fun _ known => known

/-- The loop has handled the message of `InvokeSync`, whose thread waits for the result. -/
theorem Sound.handleSync (sound : Sound program length values self) (is : self.phases thread = .handle item .invokeSync) :
    ∃ function, self.invokeFunction = some function ∧ ∀ (world : ω) (result : Int),
      Sound program length values
        ({ self with
          world := world
          functionResult := result
          handled := self.handled ++ [Message.invokeSync]
          invoked := self.invoked ++ [(function, result)] }.goto thread (.release item)) := by
  have isLoop : thread = program.loopThread := sound.fitsIn is
  have before : self.unhandled program values = Message.invokeSync :: values.queue.items.filterMap self.messageItems := by
    rw [Memory.unhandled, ← isLoop, is]
    rfl
  have waits : (self.sync program values).unhandled =
      (values.queue.items.filterMap self.messageItems).count .invokeSync + 1 := by
    rw [Memory.sync, before, List.count_cons_self]
  have quiet : (self.sync program values).done = values.semaphore := by
    rw [Memory.sync, ← isLoop, is]
    exact Nat.zero_add _
  obtain ⟨function, isFunction, synced⟩ :=
    sound.synced.handled thread (.release item) waits (by rw [is]; rfl) rfl
  rw [quiet] at synced
  refine ⟨function, isFunction, ?_⟩
  intro world result
  apply sound.goes rfl (values.queue.items.filterMap self.messageItems) (values.semaphore + 1)
  · have now : (Function.update self.phases thread (.release item) program.loopThread).message = [] := by
      rw [isLoop, Function.update_self]
      rfl
    exact congrArg (· ++ _) now
  · have now : (Function.update self.phases thread (.release item) program.loopThread).releasing = 1 := by
      rw [isLoop, Function.update_self]
      rfl
    exact (congrArg (· + _) now).trans (Nat.add_comm ..)
  · exact ⟨rfl, rfl⟩
  · apply sound.tokens.congr
    intro other
    exact update_loopThread Phase.held (by rw [is]; rfl) other
  · exact isLoop
  · exact fun _ _ _ _ => rfl
  · exact sound.carried
  · have ordered := sound.ordered
    rw [before] at ordered
    exact ordered.trans (List.append_cons ..)
  · exact synced result

/-- The loop has released the message of `InvokeSync`. -/
theorem Sound.release (sound : Sound program length ⟨pool, queue, locked, semaphore⟩ self)
    (is : self.phases thread = .release item) :
    Sound program length ⟨pool, queue, locked, semaphore + 1⟩
      ({ self with messageItems := Function.update self.messageItems item none }.goto thread (.recycle item)) := by
  have holds : (self.phases thread).held = some item := by rw [is]; rfl
  have notQueued : item ∉ queue.items := by
    intro member
    exact sound.tokens.notFree thread item holds (List.mem_append_right _ member)
  have isLoop : thread = program.loopThread := sound.fitsIn is
  apply sound.goes rfl (self.unhandled program ⟨pool, queue, locked, semaphore⟩)
    ((self.phases program.loopThread).releasing + semaphore)
  · exact congrArg₂ (· ++ ·) (update_loopThread Phase.message (by rw [is]; rfl) _) (filterMap_update notQueued none)
  · have now : (Function.update self.phases thread (.recycle item) program.loopThread).releasing = 0 := by
      rw [isLoop, Function.update_self]
      rfl
    refine (congrArg (· + (semaphore + 1)) now).trans ?_
    rw [← isLoop, is]
    change 0 + (semaphore + 1) = 1 + semaphore
    omega
  · exact ⟨rfl, rfl⟩
  · apply sound.tokens.congr
    intro other
    exact update_loopThread Phase.held (by rw [is]; rfl) other
  · exact isLoop
  · intro other item' ne holds'
    apply Function.update_of_ne
    rintro rfl
    exact ne (sound.tokens.unique other thread item' holds' holds)
  · intro other member
    change (Function.update self.messageItems item none other).isSome
    rw [Function.update_of_ne]
    · exact sound.carried other member
    · rintro rfl
      exact notQueued member
  · exact sound.ordered
  · exact sound.synced.other (by rw [is]; rfl) rfl fun _ known => known

/-- The item is in the pool again. -/
theorem Sound.recycle (sound : Sound program length ⟨⟨maxItems, items⟩, queue, locked, semaphore⟩ self)
    (is : self.phases thread = .recycle item) :
    Sound program length ⟨⟨maxItems, items ++ [item]⟩, queue, locked, semaphore⟩ (self.goto thread .idle) := by
  apply sound.goes rfl (self.unhandled program ⟨⟨maxItems, items⟩, queue, locked, semaphore⟩)
    ((self.phases program.loopThread).releasing + semaphore)
  · exact congrArg (· ++ _) (update_loopThread Phase.message (by rw [is]; rfl) _)
  · exact congrArg (· + _) (update_loopThread Phase.releasing (by rw [is]; rfl) _)
  · exact ⟨rfl, rfl⟩
  · refine (sound.tokens.give (by rw [is]; rfl) held_update_self fun _ ne => held_update_of_ne ne).perm ?_
    change (item :: (items ++ queue.items)).Perm (items ++ [item] ++ queue.items)
    rw [List.append_assoc]
    exact List.perm_middle.symm
  · trivial
  · exact fun _ _ _ _ => rfl
  · exact sound.carried
  · exact sound.ordered
  · exact sound.synced.other (by rw [is]; rfl) rfl fun _ known => known

/-- `InvokeSync` has the result. -/
theorem Sound.acquire (sound : Sound program length ⟨pool, queue, locked, semaphore⟩ self) (positive : semaphore ≠ 0)
    (is : self.phases thread = .acquire function) :
    Sound program length ⟨pool, queue, locked, semaphore - 1⟩
      (self.goto thread (.unlock function (some self.functionResult))) := by
  refine sound.passes rfl (by rw [is]; exact ⟨rfl, rfl, rfl⟩) ⟨rfl, rfl, rfl⟩ trivial ?_
  apply sound.synced.same (by rw [is]; rfl) rfl
  rw [is]
  intro known
  refine ⟨known.function, ?_⟩
  intro woken
  obtain ⟨-, ⟨-, done, -⟩ | ⟨unhandled, done, same⟩⟩ := known.stage woken
  · change _ + semaphore = 0 at done
    omega
  · change _ + semaphore = 1 at done
    refine ⟨unhandled, ?_, same⟩
    change _ + (semaphore - 1) = 0
    omega

/-- `InvokeSync` has given the mutex back. -/
theorem Sound.unlock {result : Option Int} (sound : Sound program length ⟨pool, queue, locked, semaphore⟩ self)
    (is : self.phases thread = .unlock function result) :
    Sound program length ⟨pool, queue, false, semaphore⟩
      ({ self with results := self.results ++ result.toList.map (function, ·) }.goto thread .idle) := by
  refine sound.passes rfl (by rw [is]; exact ⟨rfl, rfl, rfl⟩) ⟨rfl, rfl, rfl⟩ trivial ?_
  apply sound.synced.unlock (by rw [is]; rfl) rfl
  rw [is]
  intro known
  refine ⟨fun _ => known.function (.inl rfl), ?_⟩
  intro woken
  cases result with
  | none => exact (known.stage woken).elim
  | some value => exact known.stage woken

end Objects

/-! ### Each step -/

/-- A thread begins something, or handles a message. -/
theorem Sound.act (sound : Sound program length values self) (thread : ι) (action : Action Φ) :
    Sound program length values (act program self thread action) := by
  cases is : self.phases thread with
  | idle =>
      have from_ (phase : Phase Φ) (held : phase.held = none) (hasNot : phase.hasMutex = false)
          (fits : Fits program self.messageItems thread phase) : Sound program length values (self.goto thread phase) :=
        sound.moves (by rw [is]; rfl) held (by rw [is]; rfl) hasNot fits
      cases action with
      | postMessage message timeout =>
          simp only [LoopBase.act, is]
          apply from_ _ rfl rfl
          intro isSync
          cases isSync
      | invokeSync function =>
          simp only [LoopBase.act, is]
          by_cases isLoop : thread = program.loopThread
          · rw [if_pos isLoop]
            exact { sound with }
          · rw [if_neg isLoop]
            exact from_ _ rfl rfl trivial
      | processMessage timeout =>
          simp only [LoopBase.act, is]
          by_cases isLoop : thread = program.loopThread
          · rw [if_pos isLoop]
            exact from_ _ rfl rfl isLoop
          · rw [if_neg isLoop]
            exact sound
      | handle | sendWakeup =>
          simp only [LoopBase.act, is]
          exact sound
  | handle item message =>
      cases action with
      | handle =>
          simp only [LoopBase.act, is]
          cases message with
          | other message => exact sound.handleOther is
          | invokeSync =>
              obtain ⟨function, isFunction, handled⟩ := sound.handleSync is
              simp only [LoopBase.handle, isFunction]
              simp only [isFunction] at handled
              exact handled _ _
      | postMessage | invokeSync | processMessage | sendWakeup =>
          simp only [LoopBase.act, is]
          exact sound
  | wakeup sync =>
      cases action with
      | sendWakeup error =>
          cases error with
          | none =>
              simp only [LoopBase.act, is]
              exact sound.woken is
          | some error =>
              simp only [LoopBase.act, is]
              exact sound.notWoken is _
      | postMessage | invokeSync | processMessage | handle =>
          simp only [LoopBase.act, is]
          exact sound
  | lock | take | put | giveBack | acquire | unlock | process | release | recycle =>
      have same : LoopBase.act program self thread action = self := by
        unfold LoopBase.act
        rw [is]
      rw [same]
      exact sound

/-- A call returns. -/
theorem Sound.returned {values' : Values} {call : Call} {result : SharedQueue.Result Nat}
    (sound : Sound program length values self) (next : (self.phases thread).next = some call)
    (effect : Effect values call result values') (succeeds : call.waits = false → result = .ok none) :
    Sound program length values' (returned self thread result) := by
  obtain ⟨pool, queue, locked, semaphore⟩ := values
  cases is : self.phases thread with
  | idle | handle | wakeup =>
      rw [is] at next
      cases next
  | lock function =>
      rw [is] at next
      cases next
      obtain - | - | free := effect
      obtain rfl : locked = false := free
      simp only [LoopBase.returned, is]
      exact sound.lock is
  | take message timeout sync =>
      rw [is] at next
      cases next
      cases effect with
      | pool effect =>
          dsimp only at effect
          cases effect with
          | dequeued maxItems item items =>
              simp only [LoopBase.returned, is]
              exact sound.take is
          | notDequeued maxItems finite =>
              obtain ⟨rfl, quit⟩ := sound.noItem is finite
              simp only [LoopBase.returned, is]
              exact quit.failed _
  | put message item sync =>
      rw [is] at next
      cases next
      obtain rfl := succeeds rfl
      cases effect with
      | queue effect =>
          dsimp only at effect
          cases effect with
          | enqueued =>
              simp only [LoopBase.returned, is]
              exact sound.put is
  | giveBack item sync =>
      have fits := sound.fitsIn is
      exact fits.elim
  | acquire function =>
      rw [is] at next
      cases next
      cases effect with
      | acquire positive =>
          simp only [LoopBase.returned, is]
          exact sound.acquire positive is
  | unlock function result' =>
      rw [is] at next
      cases next
      cases effect with
      | unlock =>
          have unlocked := sound.unlock is
          cases result' with
          | none =>
              simp only [LoopBase.returned, is]
              simpa only [Option.toList_none, List.map_nil, List.append_nil] using unlocked
          | some value =>
              simp only [LoopBase.returned, is]
              exact unlocked
  | process timeout =>
      rw [is] at next
      cases next
      cases effect with
      | queue effect =>
          dsimp only at effect
          cases effect with
          | dequeued maxItems item items =>
              obtain ⟨message, carries, got⟩ := sound.get is
              simp only [LoopBase.returned, is, carries]
              exact got
          | notDequeued maxItems finite =>
              simp only [LoopBase.returned, is]
              exact sound.moves (by rw [is]; rfl) rfl (by rw [is]; rfl) rfl trivial
  | release item =>
      rw [is] at next
      cases next
      cases effect with
      | release =>
          simp only [LoopBase.returned, is]
          exact sound.release is
  | recycle item =>
      rw [is] at next
      cases next
      obtain rfl := succeeds rfl
      cases effect with
      | pool effect =>
          dsimp only at effect
          cases effect with
          | enqueued =>
              simp only [LoopBase.returned, is]
              exact sound.recycle is

/-- Nobody else is somewhere else then. -/
theorem phases_act (self : Memory ι Φ ω) (action : Action Φ) {other : ι} (ne : other ≠ thread) :
    (act program self thread action).phases other = self.phases other := by
  have goto (memory : Memory ι Φ ω) (phase : Phase Φ) : (memory.goto thread phase).phases other = memory.phases other :=
    Function.update_of_ne ne ..
  unfold LoopBase.act
  split
  next => exact goto ..
  next =>
    split
    next => rfl
    next => exact goto ..
  next =>
    split
    next => exact goto ..
    next => rfl
  next item message _ =>
    cases message with
    | other => exact goto ..
    | invokeSync =>
        cases is : self.invokeFunction with
        | none =>
            simp only [LoopBase.handle, is]
            exact goto ..
        | some function =>
            simp only [LoopBase.handle, is]
            exact goto ..
  next => exact goto ..
  next => exact goto ..
  next => rfl

theorem phases_returned (self : Memory ι Φ ω) (result : SharedQueue.Result Nat) {other : ι} (ne : other ≠ thread) :
    (returned self thread result).phases other = self.phases other := by
  have goto (memory : Memory ι Φ ω) (phase : Phase Φ) : (memory.goto thread phase).phases other = memory.phases other :=
    Function.update_of_ne ne ..
  unfold LoopBase.returned
  split <;> first | exact goto .. | skip
  next =>
    split <;> exact goto ..
  next => rfl

end Steps

/-! ## What holds in every run -/

/-- A thread makes the call of its phase, and one that queues an item has not waited. -/
structure Inv (program : Program ι Φ ω) (length : Nat)
    (state : State ι Objects Call Condition (Memory ι Φ ω)) : Prop where
  calls : ∀ thread call, (state.threads thread).call = some call → (state.memory.phases thread).next = some call
  fresh : ∀ thread call, (state.threads thread).call = some call → call.waits = false →
    state.threads thread = .ready call .called
  sound : Sound program length state.shared.value state.memory

/-- An item goes into a queue at once: there is room for it, because it is not in the queue. -/
theorem enter_of_not_waits {program : Program ι Φ ω} {length : Nat} {self : Objects} {memory : Memory ι Φ ω} {thread : ι}
    {call : Call} (sound : Sound program length self.value memory) (next : (memory.phases thread).next = some call)
    (never : call.waits = false) : (monitor.enter self call .called).outcome = .returns (.ok none) := by
  have room (item : Nat) (holds : (memory.phases thread).held = some item) :
      self.messageItemPool.itemCount < self.messageItemPool.maxItems ∧
        self.messageQueue.itemCount < self.messageQueue.maxItems := by
    have lt := sound.tokens.length_lt holds
    obtain ⟨pool, queue⟩ := sound.bounds
    change self.messageItemPool.maxItems = _ at pool
    change self.messageQueue.maxItems = _ at queue
    change (self.messageItemPool.items ++ self.messageQueue.items).length < _ at lt
    rw [List.length_append] at lt
    rw [pool, queue, SharedQueue.itemCount, SharedQueue.itemCount]
    omega
  cases is : memory.phases thread with
  | put message item sync =>
      rw [is] at next
      cases next
      rw [enter_queue]
      change Outcome.within _ ((SharedQueue.monitor Nat).enter _ _ Entry.called).outcome = _
      rw [SharedQueue.enter_enqueue_of_room (.inr (room item (by rw [is]; rfl)).2)]
      rfl
  | giveBack item sync | recycle item =>
      rw [is] at next
      cases next
      rw [enter_pool]
      change Outcome.within _ ((SharedQueue.monitor Nat).enter _ _ Entry.called).outcome = _
      rw [SharedQueue.enter_enqueue_of_room (.inr (room item (by rw [is]; rfl)).1)]
      rfl
  | unlock | release =>
      rw [is] at next
      cases next
      rfl
  | idle | lock | take | wakeup | acquire | process | handle =>
      rw [is] at next
      cases next <;> cases never

theorem init_value (length : Nat) : (init length).value = ⟨⟨length, List.range length⟩, ⟨length, []⟩, false, 0⟩ := by
  have stuffed (items : List Nat) (pool : SharedQueue Nat) (room : pool.items.length + items.length ≤ pool.maxItems) :
      (items.foldl (fun pool item => (pool.stuff item).1) pool).value = ⟨pool.maxItems, pool.items ++ items⟩ := by
    induction items generalizing pool with
    | nil => exact congrArg (SharedQueue.Bounded.mk _) (List.append_nil _).symm
    | cons item items ih =>
        rw [List.length_cons] at room
        have goes : (pool.stuff item).1 = { pool with items := pool.items ++ [item] } := by
          rw [SharedQueue.stuff, SharedQueue.itemCount, if_neg (by omega)]
        rw [List.foldl_cons, goes, ih]
        · exact congrArg (SharedQueue.Bounded.mk _) (List.append_cons ..).symm
        · rw [List.length_append, List.length_singleton]
          change _ ≤ pool.maxItems
          omega
  have pool := stuffed (List.range length) (.create length) (by rw [List.length_range]; exact Nat.le_of_eq (Nat.zero_add _))
  exact congrArg (Values.mk · _ _ _) pool

theorem Sound.start (program : Program ι Φ ω) (length : Nat) (world : ω) :
    Sound program length (init length).value (.start world) := by
  rw [init_value]
  refine ⟨⟨rfl, rfl⟩, ?_, ?_, ?_, rfl, ?_⟩
  · rw [List.append_nil]
    exact Tokens.start length
  · exact fun _ => trivial
  · intro item member
    cases member
  · refine ⟨none, ?_, rfl, ?_, fun _ => ⟨rfl, rfl, rfl⟩⟩
    · intro thread
      constructor <;>
        · intro is
          cases is
    · rintro (no | ne)
      · cases no
      · exact absurd rfl ne

section Runs

variable [DecidableEq ι] {program : Program ι Φ ω} {length : Nat} {state : State ι Objects Call Condition (Memory ι Φ ω)}
  {thread : ι}

theorem Inv.moves (inv : Inv program length state) {moved : Thread Call Condition}
    (goes : Moves monitor ((client program).calls state.memory thread) (state.threads thread) moved) :
    Inv program length (state.set thread moved) := by
  have others {other : ι} (own : other ≠ thread) : (state.set thread moved).threads other = state.threads other :=
    State.threads_set_of_ne state thread moved own
  have mine : (state.set thread moved).threads thread = moved := State.threads_set_self state thread moved
  generalize is : state.threads thread = before at goes
  refine ⟨?_, ?_, inv.sound⟩
  · intro other call isCall
    by_cases own : other = thread
    · subst own
      rw [mine] at isCall
      cases goes with
      | calls call' may =>
          cases isCall
          exact of_decide_eq_true may
      | wakes call' condition =>
          cases isCall
          exact inv.calls other _ (by rw [is]; rfl)
    · rw [others own] at isCall
      exact inv.calls other call isCall
  · intro other call isCall never
    by_cases own : other = thread
    · subst own
      rw [mine] at isCall ⊢
      cases goes with
      | calls call' may =>
          cases isCall
          rfl
      | wakes call' condition =>
          cases isCall
          have fresh := inv.fresh other _ (by rw [is]; rfl) never
          rw [is] at fresh
          cases fresh
    · rw [others own] at isCall ⊢
      exact inv.fresh other call isCall never

theorem Inv.enter (inv : Inv program length state) {call : Call} {entry : Entry Condition}
    (ready : state.threads thread = .ready call entry) (possible : entry.Possible monitor call) :
    Inv program length (state.enter monitor (client program) thread call entry) := by
  have next : (state.memory.phases thread).next = some call := inv.calls thread call (by rw [ready]; rfl)
  have succeeds (never : call.waits = false) :
      (monitor.enter state.shared call entry).outcome = .returns (.ok none) := by
    have fresh := inv.fresh thread call (by rw [ready]; rfl) never
    rw [ready] at fresh
    cases fresh
    exact enter_of_not_waits inv.sound next never
  have mine := State.threads_enter_self state monitor (client program) thread call entry
  have others {other : ι} (own : other ≠ thread) :=
    State.threads_enter_of_ne state monitor (client program) thread call entry own
  have fresh (other : ι) (own : other ≠ thread) (call' : Call)
      (isCall : ((state.enter monitor (client program) thread call entry).threads other).call = some call')
      (never : call'.waits = false) :
      (state.enter monitor (client program) thread call entry).threads other = .ready call' .called := by
    rw [others own] at isCall ⊢
    rw [Thread.call_hear] at isCall
    rw [inv.fresh other call' isCall never]
    rfl
  have sound := inv.sound
  cases ends : (monitor.enter state.shared call entry).outcome with
  | waits condition =>
      have memory : (state.enter monitor (client program) thread call entry).memory = state.memory := by
        rw [State.memory_enter, ends]
        rfl
      rw [ends] at mine
      refine ⟨?_, ?_, ?_⟩
      · intro other call' isCall
        rw [memory]
        by_cases own : other = thread
        · subst own
          rw [mine] at isCall
          cases isCall
          exact next
        · rw [others own, Thread.call_hear] at isCall
          exact inv.calls other call' isCall
      · intro other call' isCall never
        by_cases own : other = thread
        · subst own
          rw [mine] at isCall
          cases isCall
          rw [succeeds never] at ends
          cases ends
        · exact fresh other own call' isCall never
      · rw [memory, State.shared_enter, monitor_realizes.waits _ _ _ _ possible ends]
        exact sound
  | returns result =>
      have memory : (state.enter monitor (client program) thread call entry).memory =
          returned state.memory thread result := by
        rw [State.memory_enter, ends]
        rfl
      rw [ends] at mine
      refine ⟨?_, ?_, ?_⟩
      · intro other call' isCall
        by_cases own : other = thread
        · subst own
          rw [mine] at isCall
          cases isCall
        · rw [memory, phases_returned _ _ own]
          rw [others own, Thread.call_hear] at isCall
          exact inv.calls other call' isCall
      · intro other call' isCall never
        by_cases own : other = thread
        · subst own
          rw [mine] at isCall
          cases isCall
        · exact fresh other own call' isCall never
      · rw [memory, State.shared_enter]
        apply sound.returned next (monitor_realizes.returns _ _ _ _ possible ends)
        intro never
        rw [succeeds never] at ends
        cases ends
        rfl

theorem run_inv (program : Program ι Φ ω) (length : Nat) (world : ω) (steps : List (Step ι Call (Action Φ))) :
    Inv program length (run monitor (client program) (State.start (init length) (.start world)) steps) := by
  refine (run_invariant (Inv program length) ?_ ?_ ?_ ?_ steps).2
  · intro state thread action inv idle
    refine ⟨?_, inv.fresh, inv.sound.act thread action⟩
    intro other call isCall
    by_cases own : other = thread
    · rw [own, idle] at isCall
      cases isCall
    · exact (congrArg Phase.next (phases_act state.memory action own)).trans (inv.calls other call isCall)
  · exact fun state thread moved inv goes => inv.moves goes
  · exact fun state thread call entry inv ready possible => inv.enter ready possible
  · refine ⟨?_, ?_, Sound.start program length world⟩
    · intro thread call isCall
      cases isCall
    · intro thread call isCall
      cases isCall

/-- Whatever the threads do, each message that was posted is handled once, in the order of the posts, or will be; each
    item is in the pool, in the queue, or with one thread; and an item is never refused by the queue or the pool. -/
theorem run_messages (program : Program ι Φ ω) (length : Nat) (world : ω) (steps : List (Step ι Call (Action Φ))) :
    let state := run monitor (client program) (State.start (init length) (.start world)) steps
    let queued := state.shared.messageQueue.items
    state.memory.posted = state.memory.handled ++ (state.memory.phases program.loopThread).message ++
        queued.filterMap state.memory.messageItems ∧
      (∀ item ∈ queued, (state.memory.messageItems item).isSome) ∧
      Tokens length (state.shared.messageItemPool.items ++ queued) (fun thread => (state.memory.phases thread).held) ∧
      ∀ thread item sync, state.memory.phases thread ≠ .giveBack item sync := by
  intro state queued
  have sound := (run_inv program length world steps).sound
  refine ⟨?_, sound.carried, sound.tokens, ?_⟩
  · rw [List.append_assoc]
    exact sound.ordered
  · intro thread item sync is
    have fits := sound.fitsIn is
    exact fits

/-- Whatever the threads do, at most one of them is in `InvokeSync` behind the mutex, and the function of a message that
    is handled is there. If the loop was woken up for each call of `InvokeSync`: each call that has returned has the
    result of its own function, which the loop has invoked once, in this order; while a thread waits for the result,
    either its message is not handled, or the result is there; and no invocation fails. -/
theorem run_invocations (program : Program ι Φ ω) (length : Nat) (world : ω) (steps : List (Step ι Call (Action Φ))) :
    let memory := (run monitor (client program) (State.start (init length) (.start world)) steps).memory
    (∀ thread other, (memory.phases thread).hasMutex = true → (memory.phases other).hasMutex = true → thread = other) ∧
      (∀ thread item, memory.phases thread = .handle item .invokeSync → memory.invokeFunction.isSome = true) ∧
      (memory.notWoken = [] →
        (memory.invoked = memory.results ∨ ∃ thread function result,
          memory.invoked = memory.results ++ [(function, result)] ∧
            (memory.phases thread = .wakeup (some function) ∨ memory.phases thread = .acquire function ∨
              memory.phases thread = .unlock function (some result))) ∧
        (∀ thread function, memory.phases thread = .wakeup (some function) ∨ memory.phases thread = .acquire function →
          (memory.posted.count .invokeSync = memory.handled.count .invokeSync + 1 ∧ memory.invoked = memory.results) ∨
            (memory.posted.count .invokeSync = memory.handled.count .invokeSync ∧
              memory.invoked = memory.results ++ [(function, memory.functionResult)])) ∧
        ∀ thread function, memory.phases thread ≠ .unlock function none) := by
  intro memory
  have sound := (run_inv program length world steps).sound
  have counts := congrArg (List.count Message.invokeSync) sound.ordered
  rw [List.count_append] at counts
  obtain ⟨holder, holds, -, known⟩ := sound.synced
  refine ⟨?_, ?_, fun woken => ⟨?_, ?_, ?_⟩⟩
  · intro thread other has has'
    obtain rfl := (holds thread).mp has
    exact Option.some.inj ((holds other).mp has')
  · intro thread item is
    obtain ⟨function, isFunction, -⟩ := sound.handleSync is
    exact Option.isSome_iff_exists.mpr ⟨function, isFunction⟩
  · cases holder with
    | none => exact .inl (known.stage woken).2.2
    | some thread =>
        obtain same | ⟨function, result, one, is⟩ := (known.stage woken).invoked
        · exact .inl same
        · exact .inr ⟨thread, function, result, one, is⟩
  · intro thread function is
    have waits := is.elim (fun is => (sound.known is rfl).stage woken) (fun is => (sound.known is rfl).stage woken)
    obtain ⟨-, ⟨unhandled, -, same⟩ | ⟨unhandled, -, same⟩⟩ := waits
    · exact .inl ⟨counts.trans (congrArg _ unhandled), same⟩
    · exact .inr ⟨counts.trans (congrArg _ unhandled), same⟩
  · intro thread function is
    exact (sound.known is rfl).stage woken

end Runs

end GoldenGate.LoopBase
