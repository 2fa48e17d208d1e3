import GoldenGate.Utils.CoapEventEmitter
import Mathlib.Data.List.Induction

/-! # No event is lost

An event stays in the table of an emitter until it is unset, or until a request that carried it was
answered. The requests are numbered by their handles, so that a request was made after an event was
set if its handle is greater than the number of requests made before.
-/

namespace GoldenGate

open Memory Coap

/-! ## The table -/

def eventTypes (entries : List EventEntry) : List UInt32 := entries.map (·.eventType)

/-- The events of the table, with the ends of their windows. -/
def events (entries : List EventEntry) : List (UInt32 × UInt32) := entries.map fun entry => (entry.eventType, entry.windowEnd)

/-- There is at most one entry for each type of events. -/
def OnePerType (entries : List EventEntry) : Prop :=
  ∀ (i j : Nat) (eventType : UInt32), eventType ≠ eventTypeNone → (eventTypes entries)[i]? = some eventType →
    (eventTypes entries)[j]? = some eventType → i = j

/-- The table is full of other events. -/
def FullOfOthers (entries : List EventEntry) (eventType : UInt32) : Prop :=
  ∀ entry ∈ entries, entry.eventType ≠ eventTypeNone ∧ entry.eventType ≠ eventType

/-- After a response with such a code the events of the request are not sent again. -/
def Settles (code : UInt8) : Prop := code = codeChanged ∨ messageCodeClass code = codeClassClientErrorResponse

theorem eventTypes_eq (entries : List EventEntry) : eventTypes entries = (events entries).map Prod.fst := by
  simp [eventTypes, events]

theorem onePerType_congr {entries entries' : List EventEntry} (same : eventTypes entries' = eventTypes entries)
    (one : OnePerType entries) : OnePerType entries' := by
  intro i j eventType isSet atI atJ
  rw [same] at atI atJ
  exact one i j eventType isSet atI atJ

theorem EventEntry.marked_event (entry : EventEntry) :
    entry.marked.eventType = entry.eventType ∧ entry.marked.windowEnd = entry.windowEnd := by
  unfold marked
  split <;> exact ⟨rfl, rfl⟩

namespace EmitterRun

theorem insertionPoint_none {entries : List EventEntry} {eventType : UInt32} :
    insertionPoint entries eventType = none ↔ FullOfOthers entries eventType := by
  unfold insertionPoint FullOfOthers
  cases found : entries.findIdx? (·.eventType = eventType) with
  | some index =>
      obtain ⟨inside, same, -⟩ := List.findIdx?_eq_some_iff_getElem.mp found
      refine ⟨fun none => (nomatch none), ?_⟩
      intro full
      exact absurd (by simpa using same) (full _ (List.getElem_mem inside)).2
  | none =>
      have others := List.findIdx?_eq_none_iff.mp found
      refine ⟨?_, ?_⟩
      · intro noFree entry member
        exact ⟨by simpa using List.findIdx?_eq_none_iff.mp noFree entry member, by simpa using others entry member⟩
      · intro full
        apply List.findIdx?_eq_none_iff.mpr
        intro entry member
        simpa using (full entry member).1

/-- An event is stored where it was, or in a free spot if it was nowhere. -/
theorem insertionPoint_some {entries : List EventEntry} {eventType : UInt32} {index : Nat}
    (isPoint : insertionPoint entries eventType = some index) :
    (eventTypes entries)[index]? = some eventType ∨
      eventType ∉ eventTypes entries ∧ (eventTypes entries)[index]? = some eventTypeNone := by
  unfold insertionPoint at isPoint
  unfold eventTypes
  cases found : entries.findIdx? (·.eventType = eventType) with
  | some place =>
      rw [found] at isPoint
      obtain rfl := Option.some.inj isPoint
      obtain ⟨inside, same, -⟩ := List.findIdx?_eq_some_iff_getElem.mp found
      left
      rw [List.getElem?_map, List.getElem?_eq_getElem inside]
      simpa using same
  | none =>
      rw [found] at isPoint
      have others := List.findIdx?_eq_none_iff.mp found
      obtain ⟨inside, free, -⟩ := List.findIdx?_eq_some_iff_getElem.mp isPoint
      refine .inr ⟨?_, ?_⟩
      · intro member
        obtain ⟨entry, isEntry, same⟩ := List.mem_map.mp member
        simpa [same] using others entry isEntry
      · rw [List.getElem?_map, List.getElem?_eq_getElem inside]
        simpa using free

/-- Storing an event keeps one entry for each type. -/
theorem onePerType_set {entries : List EventEntry} (one : OnePerType entries) {eventType : UInt32} {index : Nat}
    (isPoint : insertionPoint entries eventType = some index) (windowEnd : UInt32) (inFlight : Bool) :
    OnePerType (entries.set index ⟨eventType, windowEnd, inFlight⟩) := by
  have types : eventTypes (entries.set index ⟨eventType, windowEnd, inFlight⟩) = (eventTypes entries).set index eventType := by
    simp [eventTypes, List.map_set]
  rcases insertionPoint_some isPoint with there | ⟨nowhere, -⟩
  · apply onePerType_congr _ one
    rw [types]
    obtain ⟨inside, same⟩ := List.getElem?_eq_some_iff.mp there
    rw [← same]
    exact List.set_getElem_self inside
  · intro i j other isSet atI atJ
    rw [types, List.getElem?_set] at atI atJ
    have absent : ∀ k : Nat, (eventTypes entries)[k]? ≠ some eventType := fun k found => nowhere (List.mem_of_getElem? found)
    split at atI
    · split at atJ
      · rename_i isI isJ
        exact isI.symm.trans isJ
      · split at atI
        · rw [← Option.some.inj atI] at atJ
          exact absurd atJ (absent j)
        · exact nomatch atI
    · split at atJ
      · split at atJ
        · rw [← Option.some.inj atJ] at atI
          exact absurd atI (absent i)
        · exact nomatch atJ
      · exact one i j other isSet atI atJ

/-- Freeing an entry keeps one entry for each type. -/
theorem onePerType_free {entries : List EventEntry} (one : OnePerType entries) {index : Nat} (windowEnd : UInt32)
    (inFlight : Bool) : OnePerType (entries.set index ⟨eventTypeNone, windowEnd, inFlight⟩) := by
  intro i j eventType isSet atI atJ
  have kept : ∀ k : Nat, (eventTypes (entries.set index ⟨eventTypeNone, windowEnd, inFlight⟩))[k]? = some eventType →
      (eventTypes entries)[k]? = some eventType := by
    intro k atK
    rw [show eventTypes (entries.set index ⟨eventTypeNone, windowEnd, inFlight⟩) =
      (eventTypes entries).set index eventTypeNone by simp [eventTypes, List.map_set], List.getElem?_set] at atK
    split at atK
    · split at atK
      · exact absurd (Option.some.inj atK).symm isSet
      · exact nomatch atK
    · exact atK
  exact one i j eventType isSet (kept i atI) (kept j atJ)

/-- Clearing the events in flight keeps one entry for each type. -/
theorem onePerType_clear {entries : List EventEntry} (one : OnePerType entries) : OnePerType (clearEmittedEvents entries) := by
  intro i j eventType isSet atI atJ
  have kept : ∀ k : Nat, (eventTypes (clearEmittedEvents entries))[k]? = some eventType →
      (eventTypes entries)[k]? = some eventType := by
    intro k atK
    unfold eventTypes clearEmittedEvents at atK
    rw [List.map_map, List.getElem?_map] at atK
    obtain ⟨entry, isEntry, same⟩ := Option.map_eq_some_iff.mp atK
    unfold eventTypes
    rw [List.getElem?_map, isEntry]
    simp only [Function.comp] at same
    split at same
    · exact absurd same.symm isSet
    · exact congrArg some same
  exact one i j eventType isSet (kept i atI) (kept j atJ)

/-! ## What an update leaves alone -/

theorem events_marked (entries : List EventEntry) : events (entries.map EventEntry.marked) = events entries := by
  unfold events
  rw [List.map_map]
  apply List.map_congr_left
  intro entry _
  simp only [Function.comp, entry.marked_event]

theorem events_emit (state : EmitterRun) (now : UInt32) (result : EmitResult) :
    events (state.emit now result).emitter.entries = events state.emitter.entries := by
  cases result <;> exact events_marked _

/-- A request that is too old is cancelled, or nothing happens. -/
theorem cancelOldRequest_cases (state : EmitterRun) (now : UInt32) :
    state.cancelOldRequest now = state ∨ state.cancelOldRequest now = { state.cancelRequest state.emitter.requestHandle with
      emitter := { state.emitter with requestHandle := 0, requestTimestamp := 0 } } := by
  unfold cancelOldRequest
  split
  · exact .inr rfl
  · exact .inl rfl

/-- After that the timer is scheduled or not, or a request is made if there is none. -/
theorem update_cases (state : EmitterRun) (now : UInt32) (result : EmitResult) :
    (∃ scheduled, state.update now result = { state.cancelOldRequest now with
      emitter := { (state.cancelOldRequest now).emitter with timerScheduled := scheduled } }) ∨
    (state.cancelOldRequest now).emitter.requestHandle = 0 ∧
      state.update now result = (state.cancelOldRequest now).emit now result := by
  unfold update
  simp only
  split
  · exact .inl ⟨_, rfl⟩
  · rename_i none
    split
    · split
      · exact .inr ⟨by simpa using none, rfl⟩
      · exact .inl ⟨true, rfl⟩
    · exact .inl ⟨_, rfl⟩

/-- An update keeps the events and their windows. -/
theorem events_update (state : EmitterRun) (now : UInt32) (result : EmitResult) :
    events (state.update now result).emitter.entries = events state.emitter.entries := by
  have cancelled : (state.cancelOldRequest now).emitter.entries = state.emitter.entries := by
    rcases state.cancelOldRequest_cases now with same | isCancelled
    · rw [same]
    · rw [isCancelled]
  rcases state.update_cases now result with ⟨scheduled, same⟩ | ⟨-, emits⟩
  · rw [same, cancelled]
  · rw [emits, events_emit, cancelled]

/-! ## When events were set -/

/-- The last event of a type that was set: how many requests were made before, and when its window
    ends. -/
def LastSet (start : EmitterRun) (steps : List EmitterStep) (eventType : UInt32) (requests : Nat) (windowEnd : UInt32) : Prop :=
  ∃ (earlier : List EmitterStep) (maxLatency now : UInt32) (result : EmitResult) (later : List EmitterStep) (before : EmitterRun),
    steps = earlier ++ ⟨.setEvent eventType maxLatency, now, result⟩ :: later ∧
    (∀ step ∈ later, ∀ latency, step.call ≠ .setEvent eventType latency) ∧
    start.run earlier = .ok before ∧ before.handles = requests ∧ now + maxLatency = windowEnd

theorem LastSet.extend {start : EmitterRun} {steps : List EmitterStep} {eventType windowEnd : UInt32} {requests : Nat}
    (last : LastSet start steps eventType requests windowEnd) {step : EmitterStep}
    (other : ∀ latency, step.call ≠ .setEvent eventType latency) :
    LastSet start (steps ++ [step]) eventType requests windowEnd := by
  obtain ⟨earlier, maxLatency, now, result, later, before, rfl, notAgain, runs, isCount, isEnd⟩ := last
  refine ⟨earlier, maxLatency, now, result, later ++ [step], before, by simp, ?_, runs, isCount, isEnd⟩
  intro step' member
  rcases List.mem_append.mp member with old | new
  · exact notAgain step' old
  · exact List.mem_singleton.mp new ▸ other

theorem lastSet_now {start before : EmitterRun} {steps : List EmitterStep} (runs : start.run steps = .ok before)
    (eventType maxLatency now : UInt32) (result : EmitResult) :
    LastSet start (steps ++ [⟨.setEvent eventType maxLatency, now, result⟩]) eventType before.handles (now + maxLatency) :=
  ⟨steps, maxLatency, now, result, [], before, rfl, fun _ member => (nomatch member), runs, rfl, rfl⟩

/-! ## The invariant -/

/-- What is known of each event that is set. One of the pending requests may just be finished; any
    other is the one that the handle names, and it carries the events that are in flight. -/
structure Covered (known : UInt32 → Nat → UInt32 → Prop) (finished : Nat) (state : EmitterRun) : Prop where
  one : OnePerType state.emitter.entries
  handles : ∀ request ∈ state.pending, 0 < request.handle ∧ request.handle ≤ state.handles
  current : ∀ request ∈ state.pending, request.handle ≠ finished → request.handle = state.emitter.requestHandle
  known : ∀ entry ∈ state.emitter.entries, entry.eventType ≠ eventTypeNone → ∃ requests, requests ≤ state.handles ∧
    known entry.eventType requests entry.windowEnd ∧ (entry.inFlight = true → ∀ request ∈ state.pending,
      request.handle ≠ finished → entry.eventType ∈ request.events ∧ requests < request.handle)

namespace Covered

variable {known : UInt32 → Nat → UInt32 → Prop} {finished : Nat} {state : EmitterRun}

/-- Nothing but the timer and the time of the request is changed. -/
theorem withEmitter (covered : Covered known finished state) {emitter : CoapEventEmitter}
    (entries : emitter.entries = state.emitter.entries) (handle : emitter.requestHandle = state.emitter.requestHandle) :
    Covered known finished { state with emitter := emitter } := by
  obtain ⟨one, handles, current, isKnown⟩ := covered
  refine ⟨?_, handles, ?_, ?_⟩
  · exact entries ▸ one
  · exact handle ▸ current
  · exact entries ▸ isKnown

/-- With no other request pending the handle may be anything. -/
theorem withHandle (covered : Covered known finished state) (none : ∀ request ∈ state.pending, request.handle = finished)
    {emitter : CoapEventEmitter} (entries : emitter.entries = state.emitter.entries) :
    Covered known finished { state with emitter := emitter } := by
  obtain ⟨one, handles, -, isKnown⟩ := covered
  refine ⟨?_, handles, ?_, ?_⟩
  · exact entries ▸ one
  · exact fun request member other => absurd (none request member) other
  · exact entries ▸ isKnown

/-- Without a handle no other request is pending. -/
theorem nonePending (covered : Covered known finished state) (none : state.emitter.requestHandle = 0) :
    ∀ request ∈ state.pending, request.handle = finished := by
  intro request member
  by_contra other
  have positive := (covered.handles request member).1
  rw [covered.current request member other, none] at positive
  exact absurd positive (Nat.lt_irrefl 0)

theorem cancelOldRequest (covered : Covered known finished state) (now : UInt32) :
    Covered known finished (state.cancelOldRequest now) := by
  unfold EmitterRun.cancelOldRequest
  split
  · obtain ⟨one, handles, current, isKnown⟩ := covered
    refine ⟨one, ?_, ?_, ?_⟩
    · intro request member
      exact handles request (List.mem_filter.mp member).1
    · intro request member other
      obtain ⟨isPending, notOld⟩ := List.mem_filter.mp member
      exact absurd (current request isPending other) (by simpa using notOld)
    · intro entry member isSet
      obtain ⟨requests, le, isKnown, carried⟩ := isKnown entry member isSet
      exact ⟨requests, le, isKnown, fun inFlight request isPending =>
        carried inFlight request (List.mem_filter.mp isPending).1⟩
  · exact covered

/-- All the events are marked, with no other request pending. -/
theorem marked (covered : Covered known finished state) (none : state.emitter.requestHandle = 0) :
    Covered known finished { state with
      emitter := { state.emitter with entries := state.emitter.entries.map EventEntry.marked }
      handles := state.handles + 1 } := by
  have nonePending := covered.nonePending none
  refine ⟨?_, ?_, covered.current, ?_⟩
  · apply onePerType_congr _ covered.one
    rw [eventTypes_eq, events_marked, eventTypes_eq]
  · intro request member
    obtain ⟨positive, le⟩ := covered.handles request member
    exact ⟨positive, Nat.le_succ_of_le le⟩
  · intro entry member isSet
    obtain ⟨original, isEntry, rfl⟩ := List.mem_map.mp member
    obtain ⟨sameType, sameEnd⟩ := original.marked_event
    rw [sameType] at isSet
    obtain ⟨requests, le, isKnown, -⟩ := covered.known original isEntry isSet
    rw [sameType, sameEnd]
    exact ⟨requests, Nat.le_succ_of_le le, isKnown, fun _ request isPending other =>
      absurd (nonePending request isPending) other⟩

theorem emit (covered : Covered known finished state) (none : state.emitter.requestHandle = 0) (now : UInt32)
    (result : EmitResult) : Covered known finished (state.emit now result) := by
  have marked := covered.marked none
  have nonePending := covered.nonePending none
  cases result with
  | accepted =>
      obtain ⟨one, handles, -, -⟩ := marked
      refine ⟨one, ?_, ?_, ?_⟩
      · intro request member
        rcases List.mem_append.mp member with old | new
        · exact handles request old
        · rw [List.mem_singleton.mp new]
          exact ⟨Nat.succ_pos _, Nat.le_refl _⟩
      · intro request member other
        rcases List.mem_append.mp member with old | new
        · exact absurd (nonePending request old) other
        · rw [List.mem_singleton.mp new]
          rfl
      · intro entry member isSet
        obtain ⟨original, isEntry, rfl⟩ := List.mem_map.mp member
        obtain ⟨sameType, sameEnd⟩ := original.marked_event
        rw [sameType] at isSet
        obtain ⟨requests, before, isKnown', -⟩ := covered.known original isEntry isSet
        refine ⟨requests, Nat.le_succ_of_le before, by rw [sameType, sameEnd]; exact isKnown', ?_⟩
        intro inFlight request isPending other
        rcases List.mem_append.mp isPending with old | new
        · exact absurd (nonePending request old) other
        · rw [List.mem_singleton.mp new]
          exact ⟨List.mem_map.mpr ⟨_, List.mem_filter.mpr ⟨member, inFlight⟩, rfl⟩, Nat.lt_succ_of_le before⟩
  | refused => exact marked.withEmitter rfl rfl
  | failed => exact marked.withHandle nonePending rfl
  | reported => exact marked.withHandle nonePending rfl

theorem update (covered : Covered known finished state) (now : UInt32) (result : EmitResult) :
    Covered known finished (state.update now result) := by
  have covered' := covered.cancelOldRequest now
  rcases state.update_cases now result with ⟨scheduled, same⟩ | ⟨none, emits⟩
  · rw [same]
    exact covered'.withEmitter rfl rfl
  · rw [emits]
    exact covered'.emit none now result

/-- One entry is changed to an event that is not in flight, or to none. -/
theorem setEntry (covered : Covered known finished state) {index : Nat} {entry : EventEntry}
    (one : OnePerType (state.emitter.entries.set index entry)) (notInFlight : entry.inFlight = false)
    (isKnown : entry.eventType ≠ eventTypeNone → ∃ requests, requests ≤ state.handles ∧
      known entry.eventType requests entry.windowEnd) :
    Covered known finished { state with
      emitter := { state.emitter with entries := state.emitter.entries.set index entry } } := by
  refine ⟨one, covered.handles, covered.current, ?_⟩
  intro other member isSet
  rcases List.mem_or_eq_of_mem_set member with isEntry | rfl
  · exact covered.known other isEntry isSet
  · obtain ⟨requests, le, isKnown⟩ := isKnown isSet
    refine ⟨requests, le, isKnown, ?_⟩
    intro inFlight
    rw [notInFlight] at inFlight
    exact nomatch inFlight

/-- The listener is told how a pending request ended. -/
theorem finishing (covered : Covered known 0 state) {request : EmitterRequest} (member : request ∈ state.pending)
    {emitter : CoapEventEmitter} (entries : emitter.entries = state.emitter.entries) :
    Covered known request.handle { state with emitter := emitter } := by
  have only : ∀ other ∈ state.pending, other.handle = request.handle := by
    intro other isPending
    rw [covered.current other isPending (Nat.pos_iff_ne_zero.mp (covered.handles other isPending).1),
      covered.current request member (Nat.pos_iff_ne_zero.mp (covered.handles request member).1)]
  refine ⟨entries ▸ covered.one, covered.handles, fun other isPending isOther => absurd (only other isPending) isOther, ?_⟩
  intro entry isEntry isSet
  rw [entries] at isEntry
  obtain ⟨requests, le, isKnown, -⟩ := covered.known entry isEntry isSet
  exact ⟨requests, le, isKnown, fun _ other isPending isOther => absurd (only other isPending) isOther⟩

/-- The events in flight are cleared. -/
theorem clear (covered : Covered known finished state) :
    Covered known finished { state with
      emitter := { state.emitter with entries := clearEmittedEvents state.emitter.entries } } := by
  refine ⟨onePerType_clear covered.one, covered.handles, covered.current, ?_⟩
  intro entry member isSet
  obtain ⟨original, isEntry, rfl⟩ := List.mem_map.mp member
  split
  · rename_i inFlight
    rw [if_pos inFlight] at isSet
    exact absurd rfl isSet
  · rename_i notInFlight
    rw [if_neg notInFlight] at isSet
    exact covered.known original isEntry isSet

/-- The request is done. -/
theorem cancelRequest (covered : Covered known finished state) : Covered known 0 (state.cancelRequest finished) := by
  refine ⟨covered.one, ?_, ?_, ?_⟩
  · intro request member
    exact covered.handles request (List.mem_filter.mp member).1
  · intro request member _
    obtain ⟨isPending, other⟩ := List.mem_filter.mp member
    exact covered.current request isPending (by simpa using other)
  · intro entry member isSet
    obtain ⟨requests, le, isKnown, carried⟩ := covered.known entry member isSet
    refine ⟨requests, le, isKnown, ?_⟩
    intro inFlight request isPending _
    obtain ⟨isPending, other⟩ := List.mem_filter.mp isPending
    exact carried inFlight request isPending (by simpa using other)

/-- More is known. -/
theorem mono (covered : Covered known finished state) {known' : UInt32 → Nat → UInt32 → Prop}
    (more : ∀ eventType requests windowEnd, eventType ∈ eventTypes state.emitter.entries →
      known eventType requests windowEnd → known' eventType requests windowEnd) : Covered known' finished state := by
  refine ⟨covered.one, covered.handles, covered.current, ?_⟩
  intro entry member isSet
  obtain ⟨requests, le, isKnown, carried⟩ := covered.known entry member isSet
  exact ⟨requests, le, more _ _ _ (List.mem_map.mpr ⟨entry, member, rfl⟩) isKnown, carried⟩

/-- The table after an event was set: all the other entries are of other types. -/
theorem mem_set {entries : List EventEntry} (one : OnePerType entries) {eventType : UInt32}
    (isSet : eventType ≠ eventTypeNone) {index : Nat} (isPoint : insertionPoint entries eventType = some index)
    {new entry : EventEntry} (member : entry ∈ entries.set index new) :
    entry = new ∨ entry ∈ entries ∧ entry.eventType ≠ eventType := by
  obtain ⟨place, found⟩ := List.mem_iff_getElem?.mp member
  rw [List.getElem?_set] at found
  split at found
  · split at found
    · exact .inl (Option.some.inj found).symm
    · exact nomatch found
  · rename_i elsewhere
    refine .inr ⟨List.mem_of_getElem? found, ?_⟩
    rintro rfl
    have there : (eventTypes entries)[place]? = some entry.eventType := by
      unfold eventTypes
      rw [List.getElem?_map, found]
      rfl
    rcases insertionPoint_some isPoint with atIndex | ⟨nowhere, -⟩
    · exact elsewhere (one index place _ isSet atIndex there)
    · exact nowhere (List.mem_of_getElem? there)

section Steps

variable {start : EmitterRun} {steps : List EmitterStep}

/-- Nothing is set in this step that is in the table after it. -/
theorem extend {state' : EmitterRun} {step : EmitterStep} (covered : Covered (LastSet start steps) finished state')
    (others : ∀ eventType ∈ eventTypes state'.emitter.entries, ∀ latency, step.call ≠ .setEvent eventType latency) :
    Covered (LastSet start (steps ++ [step])) finished state' :=
  covered.mono (fun eventType _ _ member last => last.extend (others eventType member))

theorem setEvent (covered : Covered (LastSet start steps) 0 state) (runs : start.run steps = .ok state)
    {eventType : UInt32} (isSet : eventType ≠ eventTypeNone) {index : Nat}
    (isPoint : insertionPoint state.emitter.entries eventType = some index) (maxLatency now : UInt32)
    (result : EmitResult) :
    Covered (LastSet start (steps ++ [⟨.setEvent eventType maxLatency, now, result⟩])) 0 { state with
      emitter := { state.emitter with
        entries := state.emitter.entries.set index ⟨eventType, now + maxLatency, false⟩ } } := by
  refine ⟨onePerType_set covered.one isPoint _ _, covered.handles, covered.current, ?_⟩
  intro entry member isSet'
  rcases mem_set covered.one isSet isPoint member with rfl | ⟨isEntry, isOther⟩
  · exact ⟨state.handles, Nat.le_refl _, lastSet_now runs eventType maxLatency now result,
      fun inFlight => (nomatch inFlight)⟩
  · obtain ⟨requests, le, last, carried⟩ := covered.known entry isEntry isSet'
    refine ⟨requests, le, last.extend ?_, carried⟩
    intro latency same
    exact isOther (EmitterCall.setEvent.inj same).1.symm

theorem unsetEvent (covered : Covered known 0 state) (eventType now : UInt32) (result : EmitResult) :
    Covered known 0 (state.unsetEvent eventType now result).1 := by
  unfold EmitterRun.unsetEvent
  split
  · exact covered
  · apply Covered.update
    exact covered.setEntry (onePerType_free covered.one _ _) rfl (fun isSet => absurd rfl isSet)

theorem onResponse (covered : Covered known 0 state) {request : EmitterRequest} (member : request ∈ state.pending)
    (code : UInt8) (now : UInt32) (result : EmitResult) :
    Covered known request.handle (state.onResponse code now result) := by
  unfold EmitterRun.onResponse
  simp only
  split
  · apply Covered.update
    have finishing := @Covered.finishing known state covered request member
      { state.emitter with requestHandle := 0, requestTimestamp := 0 } rfl
    exact finishing.clear
  · exact covered.finishing member rfl

theorem onError (covered : Covered known 0 state) {request : EmitterRequest} (member : request ∈ state.pending)
    (error : Error) (now : UInt32) (result : EmitResult) :
    Covered known request.handle (state.onError error now result) := by
  unfold EmitterRun.onError
  split
  · apply Covered.update
    exact covered.finishing member rfl
  · exact covered.finishing member rfl

/-- A step other than setting an event. -/
theorem step_other {state' : EmitterRun} {step : EmitterStep} (covered : Covered known 0 state)
    (other : ∀ eventType maxLatency, step.call ≠ .setEvent eventType maxLatency) (isStep : state.step step = .ok state') :
    Covered known 0 state' := by
  obtain ⟨call, now, result⟩ := step
  unfold EmitterRun.step EmitterStep.sending EmitterRun.stepSending at isStep
  cases call with
  | setEvent eventType maxLatency => exact absurd rfl (other eventType maxLatency)
  | unsetEvent eventType => exact Except.ok.inj isStep ▸ covered.unsetEvent eventType now result
  | timerFired =>
      simp only at isStep
      split at isStep
      · rw [← Except.ok.inj isStep]
        apply Covered.update
        exact covered.withEmitter rfl rfl
      · exact Except.ok.inj isStep ▸ covered
  | response handle code =>
      simp only at isStep
      split at isStep
      · rename_i isPending
        obtain ⟨request, member, rfl⟩ := of_pending isPending
        exact Except.ok.inj isStep ▸ (covered.onResponse member code now result).cancelRequest
      · exact Except.ok.inj isStep ▸ covered
  | error handle error =>
      simp only at isStep
      split at isStep
      · rename_i isPending
        obtain ⟨request, member, rfl⟩ := of_pending isPending
        exact Except.ok.inj isStep ▸ (covered.onError member error now result).cancelRequest
      · exact Except.ok.inj isStep ▸ covered

theorem step {state' : EmitterRun} {step : EmitterStep} (covered : Covered (LastSet start steps) 0 state)
    (runs : start.run steps = .ok state) (isStep : state.step step = .ok state') :
    Covered (LastSet start (steps ++ [step])) 0 state' := by
  obtain ⟨call, now, result⟩ := step
  cases call with
  | setEvent eventType maxLatency =>
      obtain ⟨⟨after, _⟩, sets, isAfter⟩ := bind_ok isStep
      obtain ⟨_, asserted, sets⟩ := bind_ok sets
      obtain rfl := Except.ok.inj isAfter
      have isSet : eventType ≠ eventTypeNone := by
        rintro rfl
        exact nomatch asserted
      split at sets
      · rename_i full
        rw [← (Prod.mk.inj (Except.ok.inj sets)).1]
        apply covered.extend
        intro other member latency same
        obtain ⟨entry, isEntry, rfl⟩ := List.mem_map.mp member
        exact (insertionPoint_none.mp full entry isEntry).2 (EmitterCall.setEvent.inj same).1.symm
      · rename_i index isPoint
        rw [← (Prod.mk.inj (Except.ok.inj sets)).1]
        apply Covered.update
        exact covered.setEvent runs isSet isPoint maxLatency now result
  | unsetEvent | timerFired | response | error =>
      have covered' := covered.step_other (by intro _ _ same; exact nomatch same) isStep
      apply covered'.extend
      intro _ _ _ same
      exact nomatch same

end Steps

end Covered

/-! ## How an event leaves the table -/

/-- An entry of another type stays when one is changed. -/
theorem mem_set_of_ne {entries : List EventEntry} {entry : EventEntry} (member : entry ∈ entries) {index : Nat}
    (other : (eventTypes entries)[index]? ≠ some entry.eventType) (new : EventEntry) : entry ∈ entries.set index new := by
  obtain ⟨place, found⟩ := List.mem_iff_getElem?.mp member
  apply List.mem_iff_getElem?.mpr
  refine ⟨place, ?_⟩
  rw [List.getElem?_set_ne, found]
  rintro rfl
  apply other
  unfold eventTypes
  rw [List.getElem?_map, found]
  rfl

/-- Setting an event puts out no other one. -/
theorem insertionPoint_ne {entries : List EventEntry} {eventType other : UInt32} (isSet : other ≠ eventTypeNone)
    (isOther : other ≠ eventType) {index : Nat} (isPoint : insertionPoint entries eventType = some index) :
    (eventTypes entries)[index]? ≠ some other := by
  intro found
  rcases insertionPoint_some isPoint with there | ⟨-, free⟩
  · rw [there] at found
    exact isOther (Option.some.inj found).symm
  · rw [free] at found
    exact isSet (Option.some.inj found).symm

theorem findIdx_ne {entries : List EventEntry} {eventType other : UInt32} (isOther : other ≠ eventType) {index : Nat}
    (isIndex : entries.findIdx? (·.eventType = eventType) = some index) : (eventTypes entries)[index]? ≠ some other := by
  intro found
  obtain ⟨inside, same, -⟩ := List.findIdx?_eq_some_iff_getElem.mp isIndex
  unfold eventTypes at found
  rw [List.getElem?_map, List.getElem?_eq_getElem inside] at found
  apply isOther
  rw [← Option.some.inj found]
  simpa using same

theorem mem_eventTypes_update {state : EmitterRun} {eventType : UInt32} (now : UInt32) (result : EmitResult) :
    eventType ∈ eventTypes (state.update now result).emitter.entries ↔ eventType ∈ eventTypes state.emitter.entries := by
  rw [eventTypes_eq, events_update, ← eventTypes_eq]

/-- An event leaves the table when it is unset, or when a request that carried it is answered. -/
theorem Covered.leaves {known : UInt32 → Nat → UInt32 → Prop} {state state' : EmitterRun} (covered : Covered known 0 state)
    {step : EmitterStep} (isStep : state.step step = .ok state') {eventType : UInt32} (isSet : eventType ≠ eventTypeNone)
    (present : eventType ∈ eventTypes state.emitter.entries) (absent : eventType ∉ eventTypes state'.emitter.entries) :
    step.call = .unsetEvent eventType ∨ ∃ request ∈ state.pending, ∃ code, step.call = .response request.handle code ∧
      Settles code ∧ eventType ∈ request.events ∧
      ∃ requests windowEnd, known eventType requests windowEnd ∧ requests < request.handle := by
  obtain ⟨entry, isEntry, rfl⟩ := List.mem_map.mp present
  obtain ⟨call, now, result⟩ := step
  cases call with
  | setEvent other maxLatency =>
      obtain ⟨⟨after, _⟩, sets, isAfter⟩ := bind_ok isStep
      obtain ⟨_, -, sets⟩ := bind_ok sets
      obtain rfl := Except.ok.inj isAfter
      split at sets
      · rw [← (Prod.mk.inj (Except.ok.inj sets)).1] at absent
        exact absurd present absent
      · rename_i index isPoint
        rw [← (Prod.mk.inj (Except.ok.inj sets)).1, mem_eventTypes_update] at absent
        apply absurd _ absent
        by_cases same : entry.eventType = other
        · have inside : index < state.emitter.entries.length := by
            rcases insertionPoint_some isPoint with there | ⟨-, there⟩ <;>
              simpa [eventTypes] using (List.getElem?_eq_some_iff.mp there).1
          exact List.mem_map.mpr ⟨_, List.mem_set inside _, same.symm⟩
        · exact List.mem_map.mpr ⟨entry, mem_set_of_ne isEntry (insertionPoint_ne isSet same isPoint) _, rfl⟩
  | unsetEvent other =>
      by_cases same : entry.eventType = other
      · exact .inl (by rw [same])
      · rw [← Except.ok.inj isStep] at absent
        unfold EmitterRun.unsetEvent at absent
        split at absent
        · exact absurd present absent
        · rename_i index isIndex
          rw [mem_eventTypes_update] at absent
          exact absurd (List.mem_map.mpr ⟨entry, mem_set_of_ne isEntry (findIdx_ne same isIndex) _, rfl⟩) absent
  | timerFired =>
      unfold EmitterRun.step EmitterStep.sending EmitterRun.stepSending at isStep
      simp only at isStep
      split at isStep
      · rw [← Except.ok.inj isStep, onTimerFired, mem_eventTypes_update] at absent
        exact absurd present absent
      · exact absurd (Except.ok.inj isStep ▸ present) absent
  | response handle code =>
      unfold EmitterRun.step EmitterStep.sending EmitterRun.stepSending at isStep
      simp only at isStep
      split at isStep
      · rename_i isPending
        obtain ⟨request, member, rfl⟩ := of_pending isPending
        rw [← Except.ok.inj isStep] at absent
        simp only [EmitterRun.cancelRequest, EmitterRun.onResponse] at absent
        split at absent
        · rename_i settles
          rw [mem_eventTypes_update] at absent
          cases inFlight : entry.inFlight with
          | true =>
              obtain ⟨requests, -, isKnown, carried⟩ := covered.known entry isEntry isSet
              obtain ⟨carries, later⟩ := carried inFlight request member
                (Nat.pos_iff_ne_zero.mp (covered.handles request member).1)
              exact .inr ⟨request, member, code, rfl, settles, carries, requests, entry.windowEnd, isKnown, later⟩
          | false =>
              apply absurd (List.mem_map.mpr ⟨entry, ?_, rfl⟩) absent
              exact List.mem_map.mpr ⟨entry, isEntry, by simp [inFlight]⟩
        · exact absurd present absent
      · exact absurd (Except.ok.inj isStep ▸ present) absent
  | error handle error =>
      unfold EmitterRun.step EmitterStep.sending EmitterRun.stepSending at isStep
      simp only at isStep
      split at isStep
      · rw [← Except.ok.inj isStep] at absent
        simp only [EmitterRun.cancelRequest, EmitterRun.onError] at absent
        split at absent
        · rw [mem_eventTypes_update] at absent
          exact absurd present absent
        · exact absurd present absent
      · exact absurd (Except.ok.inj isStep ▸ present) absent

/-! ## An event that is set again -/

def IsPending (state : EmitterRun) (handle : Nat) : Prop := ∃ request ∈ state.pending, request.handle = handle

/-- An update makes no request pending but a new one. -/
theorem pending_update {state : EmitterRun} {handle : Nat} (known : handle ≤ state.handles) {now : UInt32}
    {result : EmitResult} (after : (state.update now result).IsPending handle) :
    (state.cancelOldRequest now).IsPending handle := by
  have sameHandles : (state.cancelOldRequest now).handles = state.handles := by
    rcases state.cancelOldRequest_cases now with same | isCancelled
    · rw [same]
    · rw [isCancelled]
      rfl
  obtain ⟨request, member, rfl⟩ := after
  rcases state.update_cases now result with ⟨scheduled, same⟩ | ⟨none, emits⟩
  · rw [same] at member
    exact ⟨request, member, rfl⟩
  · rw [emits] at member
    cases result with
    | accepted =>
        rcases List.mem_append.mp member with old | new
        · exact ⟨request, old, rfl⟩
        · rw [List.mem_singleton.mp new] at known
          simp only [sameHandles] at known
          omega
    | refused | failed | reported => exact ⟨request, member, rfl⟩

theorem pending_cancelOldRequest {state : EmitterRun} {handle : Nat} {now : UInt32}
    (after : (state.cancelOldRequest now).IsPending handle) : state.IsPending handle := by
  obtain ⟨request, member, rfl⟩ := after
  rcases state.cancelOldRequest_cases now with same | isCancelled
  · rw [same] at member
    exact ⟨request, member, rfl⟩
  · rw [isCancelled] at member
    exact ⟨request, (List.mem_filter.mp member).1, rfl⟩

/-- While a request is pending an update changes no entry. -/
theorem entries_update {known : UInt32 → Nat → UInt32 → Prop} {state : EmitterRun} (covered : Covered known 0 state)
    {handle : Nat} {now : UInt32} {result : EmitResult} (le : handle ≤ state.handles)
    (after : (state.update now result).IsPending handle) :
    (state.update now result).emitter.entries = state.emitter.entries := by
  have between := pending_update le after
  obtain ⟨request, member, rfl⟩ := pending_cancelOldRequest between
  have positive := Nat.pos_iff_ne_zero.mp (covered.handles request member).1
  have current := covered.current request member positive
  have same : state.cancelOldRequest now = state := by
    rcases state.cancelOldRequest_cases now with same | isCancelled
    · exact same
    · obtain ⟨other, isPending, isHandle⟩ := between
      rw [isCancelled] at isPending
      exact absurd (isHandle.trans current) (by simpa using (List.mem_filter.mp isPending).2)
  rcases state.update_cases now result with ⟨scheduled, isSame⟩ | ⟨none, -⟩
  · rw [isSame, same]
  · rw [same, ← current] at none
    exact absurd none positive

/-- As long as a request is pending the event is in the table, and not in flight. -/
structure Kept (handle : Nat) (eventType windowEnd : UInt32) (state : EmitterRun) : Prop where
  known : handle ≤ state.handles
  kept : state.IsPending handle → ⟨eventType, windowEnd, false⟩ ∈ state.emitter.entries

theorem handles_update (state : EmitterRun) (now : UInt32) (result : EmitResult) :
    state.handles ≤ (state.update now result).handles := by
  have same : (state.cancelOldRequest now).handles = state.handles := by
    rcases state.cancelOldRequest_cases now with same | isCancelled
    · rw [same]
    · rw [isCancelled]
      rfl
  rcases state.update_cases now result with ⟨scheduled, isSame⟩ | ⟨-, emits⟩
  · rw [isSame]
    exact Nat.le_of_eq same.symm
  · rw [emits]
    cases result <;> exact same ▸ Nat.le_succ _

/-- The table was changed where another event is, and an update follows. -/
theorem Kept.update {known : UInt32 → Nat → UInt32 → Prop} {handle : Nat} {eventType windowEnd : UInt32} {state : EmitterRun}
    (covered : Covered known 0 state) (kept : Kept handle eventType windowEnd state) (now : UInt32) (result : EmitResult) :
    Kept handle eventType windowEnd (state.update now result) := by
  refine ⟨Nat.le_trans kept.known (state.handles_update now result), ?_⟩
  intro after
  rw [entries_update covered kept.known after]
  exact kept.kept (pending_cancelOldRequest (pending_update kept.known after))

theorem Kept.setEntry {handle : Nat} {eventType windowEnd : UInt32} {state : EmitterRun}
    (kept : Kept handle eventType windowEnd state) {index : Nat}
    (other : (eventTypes state.emitter.entries)[index]? ≠ some eventType) (new : EventEntry) :
    Kept handle eventType windowEnd { state with
      emitter := { state.emitter with entries := state.emitter.entries.set index new } } :=
  ⟨kept.known, fun isPending => mem_set_of_ne (kept.kept isPending) other new⟩

/-- A request that is answered is the only one that was pending. -/
theorem Kept.finished {known : UInt32 → Nat → UInt32 → Prop} {handle : Nat} {eventType windowEnd : UInt32}
    {state after : EmitterRun} (covered : Covered known 0 state) (kept : Kept handle eventType windowEnd state)
    {request : EmitterRequest} (member : request ∈ state.pending) (more : state.handles ≤ after.handles)
    (old : after.IsPending handle → state.IsPending handle) :
    Kept handle eventType windowEnd (after.cancelRequest request.handle) := by
  refine ⟨Nat.le_trans kept.known more, ?_⟩
  rintro ⟨other, isPending, rfl⟩
  obtain ⟨isPending, isOther⟩ := List.mem_filter.mp isPending
  obtain ⟨same, isPending', isHandle⟩ := old ⟨other, isPending, rfl⟩
  have only : ∀ request' ∈ state.pending, request'.handle = state.emitter.requestHandle :=
    fun request' isPending'' =>
      covered.current request' isPending'' (Nat.pos_iff_ne_zero.mp (covered.handles request' isPending'').1)
  apply absurd _ (show ¬ other.handle = request.handle by simpa using isOther)
  rw [← isHandle, only same isPending', only request member]

theorem pending_of_update {state : EmitterRun} {handle : Nat} (known : handle ≤ state.handles) {now : UInt32}
    {result : EmitResult} (after : (state.update now result).IsPending handle) : state.IsPending handle :=
  pending_cancelOldRequest (pending_update known after)

theorem Kept.finishedUpdate {known : UInt32 → Nat → UInt32 → Prop} {handle : Nat} {eventType windowEnd : UInt32}
    {state : EmitterRun} (covered : Covered known 0 state) (kept : Kept handle eventType windowEnd state)
    {request : EmitterRequest} (member : request ∈ state.pending) (emitter : CoapEventEmitter) (now : UInt32)
    (result : EmitResult) :
    Kept handle eventType windowEnd (({ state with emitter := emitter }.update now result).cancelRequest request.handle) := by
  apply kept.finished covered member
  · exact handles_update { state with emitter := emitter } now result
  · exact @pending_of_update { state with emitter := emitter } handle kept.known now result

/-- The event is kept by every step that does not set or unset it. -/
theorem Kept.step {known : UInt32 → Nat → UInt32 → Prop} {handle : Nat} {eventType windowEnd : UInt32}
    {state state' : EmitterRun} (covered : Covered known 0 state) (kept : Kept handle eventType windowEnd state)
    (isSet : eventType ≠ eventTypeNone) {step : EmitterStep} (notSet : ∀ latency, step.call ≠ .setEvent eventType latency)
    (notUnset : step.call ≠ .unsetEvent eventType) (isStep : state.step step = .ok state') :
    Kept handle eventType windowEnd state' := by
  obtain ⟨call, now, result⟩ := step
  cases call with
  | setEvent other maxLatency =>
      have isOther : eventType ≠ other := by
        rintro rfl
        exact notSet maxLatency rfl
      obtain ⟨⟨after, _⟩, sets, isAfter⟩ := bind_ok isStep
      obtain ⟨_, -, sets⟩ := bind_ok sets
      obtain rfl := Except.ok.inj isAfter
      split at sets
      · rw [← (Prod.mk.inj (Except.ok.inj sets)).1]
        exact kept
      · rename_i index isPoint
        rw [← (Prod.mk.inj (Except.ok.inj sets)).1]
        have any : Covered (fun _ _ _ => True) 0 state := covered.mono (fun _ _ _ _ _ => trivial)
        apply Kept.update (any.setEntry (onePerType_set covered.one isPoint _ _) rfl (fun _ => ⟨0, Nat.zero_le _, trivial⟩))
        exact kept.setEntry (insertionPoint_ne isSet isOther isPoint) _
  | unsetEvent other =>
      have isOther : eventType ≠ other := by
        rintro rfl
        exact notUnset rfl
      rw [← Except.ok.inj isStep]
      unfold EmitterRun.unsetEvent
      split
      · exact kept
      · rename_i index isIndex
        apply Kept.update (covered.setEntry (onePerType_free covered.one _ _) rfl (fun isSet => absurd rfl isSet))
        exact kept.setEntry (findIdx_ne isOther isIndex) _
  | timerFired =>
      unfold EmitterRun.step EmitterStep.sending EmitterRun.stepSending at isStep
      simp only at isStep
      split at isStep
      · rw [← Except.ok.inj isStep]
        have covered' := @Covered.withEmitter known 0 state covered { state.emitter with timerScheduled := false } rfl rfl
        apply Kept.update covered'
        exact ⟨kept.known, kept.kept⟩
      · exact Except.ok.inj isStep ▸ kept
  | response answered code =>
      unfold EmitterRun.step EmitterStep.sending EmitterRun.stepSending at isStep
      simp only at isStep
      split at isStep
      · rename_i isPending
        obtain ⟨request, member, rfl⟩ := of_pending isPending
        rw [← Except.ok.inj isStep]
        unfold EmitterRun.onResponse
        simp only
        split
        · exact kept.finishedUpdate covered member _ now result
        · exact kept.finished covered member (Nat.le_refl _) id
      · exact Except.ok.inj isStep ▸ kept
  | error answered error =>
      unfold EmitterRun.step EmitterStep.sending EmitterRun.stepSending at isStep
      simp only at isStep
      split at isStep
      · rename_i isPending
        obtain ⟨request, member, rfl⟩ := of_pending isPending
        rw [← Except.ok.inj isStep]
        unfold EmitterRun.onError
        split
        · exact kept.finishedUpdate covered member _ now result
        · exact kept.finished covered member (Nat.le_refl _) id
      · exact Except.ok.inj isStep ▸ kept

/-- What is known of the events does not matter to the table. -/
theorem Covered.step_any {known : UInt32 → Nat → UInt32 → Prop} {state state' : EmitterRun} (covered : Covered known 0 state)
    {step : EmitterStep} (isStep : state.step step = .ok state') : Covered (fun _ _ _ => True) 0 state' := by
  have any : Covered (fun _ _ _ => True) 0 state := covered.mono (fun _ _ _ _ _ => trivial)
  obtain ⟨call, now, result⟩ := step
  cases call with
  | setEvent eventType maxLatency =>
      obtain ⟨⟨after, _⟩, sets, isAfter⟩ := bind_ok isStep
      obtain ⟨_, -, sets⟩ := bind_ok sets
      obtain rfl := Except.ok.inj isAfter
      split at sets
      · rw [← (Prod.mk.inj (Except.ok.inj sets)).1]
        exact any
      · rename_i index isPoint
        rw [← (Prod.mk.inj (Except.ok.inj sets)).1]
        apply Covered.update
        exact any.setEntry (onePerType_set covered.one isPoint _ _) rfl (fun _ => ⟨0, Nat.zero_le _, trivial⟩)
  | unsetEvent | timerFired | response | error => exact any.step_other (by intro _ _ same; exact nomatch same) isStep

/-- The event is kept by every run that does not set or unset it. -/
theorem Kept.run {known : UInt32 → Nat → UInt32 → Prop} {handle : Nat} {eventType windowEnd : UInt32}
    {state state' : EmitterRun} (covered : Covered known 0 state) (kept : Kept handle eventType windowEnd state)
    (isSet : eventType ≠ eventTypeNone) {steps : List EmitterStep}
    (others : ∀ step ∈ steps, (∀ latency, step.call ≠ .setEvent eventType latency) ∧ step.call ≠ .unsetEvent eventType)
    (runs : state.run steps = .ok state') : Kept handle eventType windowEnd state' := by
  induction steps generalizing known state with
  | nil => exact Except.ok.inj runs ▸ kept
  | cons step steps ih =>
      unfold EmitterRun.run at ih runs
      rw [List.foldlM_cons] at runs
      obtain ⟨between, isStep, runs'⟩ := bind_ok runs
      obtain ⟨notSet, notUnset⟩ := others step List.mem_cons_self
      exact ih (covered.step_any isStep) (kept.step covered isSet notSet notUnset isStep)
        (fun other member => others other (List.mem_cons_of_mem _ member)) runs'

/-- An event that is not in flight survives a response. -/
theorem Kept.response {handle : Nat} {eventType windowEnd : UInt32} {state state' : EmitterRun}
    (kept : Kept handle eventType windowEnd state) (isPending : state.IsPending handle) {code : UInt8} {now : UInt32}
    {result : EmitResult} (isStep : state.step ⟨.response handle code, now, result⟩ = .ok state') :
    (eventType, windowEnd) ∈ events state'.emitter.entries := by
  have member := kept.kept isPending
  have present : (eventType, windowEnd) ∈ events state.emitter.entries := List.mem_map.mpr ⟨_, member, rfl⟩
  unfold EmitterRun.step EmitterStep.sending EmitterRun.stepSending at isStep
  simp only at isStep
  split at isStep
  · rw [← Except.ok.inj isStep]
    simp only [EmitterRun.cancelRequest, EmitterRun.onResponse]
    split
    · rw [events_update]
      apply List.mem_map.mpr
      exact ⟨_, List.mem_map.mpr ⟨_, member, rfl⟩, rfl⟩
    · exact present
  · exact Except.ok.inj isStep ▸ present

end EmitterRun

end GoldenGate
