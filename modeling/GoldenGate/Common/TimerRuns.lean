import GoldenGate.Common.TimerQueue

/-! # Runs of a timer scheduler

Every run of a scheduler is compared with the agenda of its history. The claims about one
call of `SetTime` are about the part of the history between the call and its return, in which
the listeners have made the calls they like.
-/

namespace GoldenGate

open Memory

variable {maxTimers : Nat} {Listener : Type}

/-- How the agenda of a run tells the time. -/
inductive Clock where
  /-- As the scheduler was last told. -/
  | told
  /-- As it has passed, if the scheduler is told the time modulo `2 ^ 32`, and often enough. -/
  | elapsed
  deriving Repr, DecidableEq

def Clock.tick : Clock → Nat → UInt32 → Nat
  | told, _, now => now.toNat
  | elapsed, time, now => time + (now - UInt32.ofNat time).toNat

/-- What an event means for the agenda. -/
def Agenda.record (clock : Clock) (agenda : Agenda (Fin maxTimers) Listener) :
    TimerEvent maxTimers Listener → Agenda (Fin maxTimers) Listener
  | .called (.schedule timer (some listener) msFromNow) => agenda.schedule timer listener msFromNow.toNat
  | .called (.schedule _ none _) => agenda
  | .called .createTimer => agenda
  | .called (.destroy timer) => agenda.undo timer
  | .called (.unschedule timer) => agenda.undo timer
  | .setTime now => agenda.setTime (clock.tick agenda.now now)
  | .fired timer listener elapsed => agenda.fire timer listener elapsed.toNat
  | .returned => agenda

def Clock.agenda (clock : Clock) (history : List (TimerEvent maxTimers Listener)) : Agenda (Fin maxTimers) Listener :=
  history.foldl (Agenda.record clock) .empty

@[simp] theorem Clock.agenda_concat (clock : Clock) (history : List (TimerEvent maxTimers Listener))
    (event : TimerEvent maxTimers Listener) :
    clock.agenda (history ++ [event]) = (clock.agenda history).record clock event := by
  simp [agenda]

/-- What happens while `SetTime` runs. -/
def TimerEvent.Inside : TimerEvent maxTimers Listener → Prop
  | .called _ | .fired _ _ _ => True
  | .setTime _ | .returned => False

/-! ## What may happen -/

/-- The fire time of a scheduling can be told. -/
def TimerCall.Fits (now : UInt32) : TimerCall maxTimers Listener → Prop
  | .schedule _ (some _) msFromNow => now.toNat + msFromNow.toNat < 2 ^ 32
  | _ => True

/-- The time may be set. Where it is the time that has passed, it does not begin again at zero
    while a timer is scheduled. -/
def Clock.MaySet (scheduler : TimerScheduler maxTimers Listener) (now : UInt32) : Clock → Prop
  | told => True
  | elapsed => scheduler.now ≤ now ∨ scheduler.scheduled = []

namespace TimerRun

def MayTake (clock : Clock) (state : TimerRun maxTimers Listener) : TimerStep maxTimers Listener → Prop
  | .call call => call.Fits state.scheduler.now
  | .setTime now => state.firing = none ∧ clock.MaySet state.scheduler now
  | .resume => state.firing ≠ none

def Permits (clock : Clock) (state : TimerRun maxTimers Listener) : List (TimerStep maxTimers Listener) → Prop
  | [] => True
  | step :: steps => state.MayTake clock step ∧ ∀ state', state.step step = .ok state' → state'.Permits clock steps

instance (now : UInt32) : ∀ call : TimerCall maxTimers Listener, Decidable (call.Fits now)
  | .schedule _ (some _) msFromNow => inferInstanceAs (Decidable (now.toNat + msFromNow.toNat < 2 ^ 32))
  | .schedule _ none _ | .createTimer | .destroy _ | .unschedule _ => inferInstanceAs (Decidable True)

instance (scheduler : TimerScheduler maxTimers Listener) (now : UInt32) : ∀ clock : Clock,
    Decidable (clock.MaySet scheduler now)
  | .told => inferInstanceAs (Decidable True)
  | .elapsed => inferInstanceAs (Decidable (_ ∨ _))

instance (clock : Clock) (state : TimerRun maxTimers Listener) : ∀ step, Decidable (state.MayTake clock step)
  | .call call => inferInstanceAs (Decidable (call.Fits _))
  | .setTime _ =>
      have := decidable_of_iff (state.firing.isNone = true) Option.isNone_iff_eq_none
      inferInstanceAs (Decidable (_ ∧ _))
  | .resume =>
      have := decidable_of_iff (state.firing.isNone = true) Option.isNone_iff_eq_none
      inferInstanceAs (Decidable (¬ state.firing = none))

instance decidablePermits (clock : Clock) (state : TimerRun maxTimers Listener) :
    ∀ steps, Decidable (state.Permits clock steps)
  | [] => inferInstanceAs (Decidable True)
  | _ :: steps =>
      have := fun (state' : TimerRun maxTimers Listener) => decidablePermits clock state' steps
      inferInstanceAs (Decidable (_ ∧ _))

end TimerRun

/-! ## Telling the time -/

/-- How many times the clock of the scheduler has begun again, in milliseconds. -/
def Clock.Epoch : Clock → Nat → Prop
  | told, epoch => epoch = 0
  | elapsed, epoch => 2 ^ 32 ∣ epoch

theorem Clock.setTime {clock : Clock} {epoch : Nat} {scheduler : TimerScheduler maxTimers Listener}
    {agenda : Agenda (Fin maxTimers) Listener} {now : UInt32} (isEpoch : clock.Epoch epoch)
    (represents : scheduler.Represents epoch agenda) (may : clock.MaySet scheduler now) :
    ∃ epoch', clock.Epoch epoch' ∧
      { scheduler with now := now }.Represents epoch' (agenda.setTime (clock.tick agenda.now now)) := by
  obtain ⟨linked, sound, queue, queues⟩ := represents
  have linked' : { scheduler with now := now }.Linked := ⟨linked.once, linked.listening⟩
  cases clock with
  | told =>
      obtain rfl : epoch = 0 := isEpoch
      exact ⟨0, rfl, linked', sound.setTime _, queue, (Nat.zero_add _).symm, queues.timers, queues.holds,
        queues.sorted, queues.pending⟩
  | elapsed =>
      obtain ⟨count, isCount⟩ : 2 ^ 32 ∣ epoch := isEpoch
      have shown : UInt32.ofNat agenda.now = scheduler.now := by
        rw [queues.now, isCount, ← UInt32.toNat_inj, UInt32.toNat_ofNat', Nat.mul_add_mod]
        exact Nat.mod_eq_of_lt scheduler.now.toNat_lt
      have old := scheduler.now.toNat_lt
      by_cases le : scheduler.now ≤ now
      · refine ⟨epoch, ⟨count, isCount⟩, linked', sound.setTime _, queue, ?_, queues.timers, queues.holds,
          queues.sorted, queues.pending⟩
        have le' := UInt32.le_iff_toNat_le.mp le
        change agenda.now + (now - UInt32.ofNat agenda.now).toNat = epoch + now.toNat
        rw [shown, UInt32.toNat_sub_of_le _ _ le, queues.now]
        omega
      · have empty : scheduler.scheduled = [] := may.resolve_left le
        obtain rfl : queue = [] := by
          rw [queues.timers] at empty
          exact List.map_eq_nil_iff.mp empty
        refine ⟨epoch + 2 ^ 32, ⟨count + 1, by rw [isCount, Nat.mul_succ]⟩, linked', sound.setTime _, [], ?_,
          empty, by simp, .nil, queues.pending⟩
        have less := UInt32.lt_iff_toNat_lt.mp (UInt32.not_le.mp le)
        change agenda.now + (now - UInt32.ofNat agenda.now).toNat = epoch + 2 ^ 32 + now.toNat
        rw [shown, UInt32.toNat_sub, queues.now, Nat.mod_eq_of_lt (by omega)]
        omega

/-! ## One step -/

/-- In a history, the calls of `SetTime` that have returned fired what was due. -/
def FiresAll (clock : Clock) (history : List (TimerEvent maxTimers Listener)) : Prop :=
  ∀ before now during, before ++ TimerEvent.setTime now :: during ++ [TimerEvent.returned] <+: history →
    (∀ event ∈ during, event.Inside) →
    ∃ made fired undone,
      (clock.agenda before).Fires (clock.agenda (before ++ TimerEvent.setTime now :: during)) made fired undone

/-- A call of `SetTime` in progress: the history since it was made. -/
structure Pending (clock : Clock) (history : List (TimerEvent maxTimers Listener)) (now : UInt32) : Prop where
  since : ∃ before during made fired undone, history = before ++ TimerEvent.setTime now :: during ∧
    (∀ event ∈ during, event.Inside) ∧ (clock.agenda before).Sound ∧
    (clock.agenda before).Firing (clock.agenda history) made fired undone

/-- What holds in every state of a run. -/
structure TimerRun.Valid (clock : Clock) (state : TimerRun maxTimers Listener) : Prop where
  represents : ∃ epoch, clock.Epoch epoch ∧ state.scheduler.Represents epoch (clock.agenda state.history)
  firing : ∀ now, state.firing = some now → state.scheduler.now = now ∧ Pending clock state.history now
  fires : FiresAll clock state.history

/-- Only a return can be the end of a call. -/
theorem FiresAll.concat {clock : Clock} {history : List (TimerEvent maxTimers Listener)}
    (fires : FiresAll clock history) {event : TimerEvent maxTimers Listener} (other : event ≠ .returned) :
    FiresAll clock (history ++ [event]) := by
  intro before now during isPrefix inside
  rcases List.prefix_concat_iff.mp isPrefix with same | earlier
  · exact absurd (List.append_singleton_inj.mp same).2.symm other
  · exact fires before now during earlier inside

/-- The last call of `SetTime` is found in one way. -/
theorem split_unique {before before' during during' : List (TimerEvent maxTimers Listener)} {now now' : UInt32}
    (inside : ∀ event ∈ during, event.Inside) (inside' : ∀ event ∈ during', event.Inside)
    (same : before ++ TimerEvent.setTime now :: during = before' ++ .setTime now' :: during') :
    before = before' ∧ now = now' ∧ during = during' := by
  rcases List.append_eq_append_iff.mp same with ⟨gap, rfl, split⟩ | ⟨gap, rfl, split⟩
  · cases gap with
    | nil => simpa using split
    | cons event gap =>
        have later : TimerEvent.setTime now' ∈ during := by simp [(List.cons.inj split).2]
        exact (inside _ later).elim
  · cases gap with
    | nil => simpa [eq_comm] using split
    | cons event gap =>
        have later : TimerEvent.setTime now ∈ during' := by simp [(List.cons.inj split).2]
        exact (inside' _ later).elim

theorem TimerScheduler.Represents.call {clock : Clock} {epoch : Nat} {scheduler : TimerScheduler maxTimers Listener}
    {agenda : Agenda (Fin maxTimers) Listener} (represents : scheduler.Represents epoch agenda)
    {call : TimerCall maxTimers Listener} (fits : call.Fits scheduler.now) :
    ∃ scheduler', scheduler.call call = .ok scheduler' ∧ scheduler'.now = scheduler.now ∧
      scheduler'.Represents epoch (agenda.record clock (.called call)) := by
  cases call with
  | createTimer =>
      refine ⟨_, rfl, ?_, represents.createTimer⟩
      unfold TimerScheduler.createTimer
      split <;> rfl
  | destroy timer =>
      obtain ⟨scheduler', destroys, represents'⟩ := represents.destroy timer
      refine ⟨scheduler', destroys, ?_, represents'⟩
      obtain ⟨_, _, result⟩ := bind_ok destroys
      rw [← Except.ok.inj result]
      rfl
  | schedule timer listener msFromNow =>
      cases listener with
      | none => exact ⟨_, rfl, rfl, represents⟩
      | some listener => exact ⟨_, rfl, rfl, represents.schedule timer listener msFromNow fits⟩
  | unschedule timer =>
      refine ⟨_, rfl, ?_, represents.unschedules timer⟩
      unfold TimerScheduler.unschedule
      split <;> rfl

/-- A listener may make any call. -/
theorem Agenda.Firing.called {clock : Clock} {agenda agenda' : Agenda (Fin maxTimers) Listener}
    {made fired undone : List (Scheduling (Fin maxTimers) Listener)}
    (firing : agenda.Firing agenda' made fired undone) (call : TimerCall maxTimers Listener) :
    ∃ made' undone', agenda.Firing (agenda'.record clock (.called call)) made' fired undone' := by
  cases call with
  | createTimer => exact ⟨made, undone, firing⟩
  | destroy timer => exact ⟨made, _, firing.undo timer⟩
  | schedule timer listener msFromNow =>
      cases listener with
      | none => exact ⟨made, undone, firing⟩
      | some listener => exact ⟨_, _, firing.schedule timer listener msFromNow.toNat⟩
  | unschedule timer => exact ⟨made, _, firing.undo timer⟩

namespace TimerRun

theorem Valid.call {clock : Clock} {state : TimerRun maxTimers Listener} (valid : state.Valid clock)
    {call : TimerCall maxTimers Listener} (fits : call.Fits state.scheduler.now) :
    ∃ state', state.step (.call call) = .ok state' ∧ state'.Valid clock := by
  obtain ⟨⟨epoch, isEpoch, represents⟩, firing, fires⟩ := valid
  obtain ⟨scheduler', calls, now, represents'⟩ := @TimerScheduler.Represents.call _ _ clock _ _ _ represents _ fits
  refine ⟨⟨scheduler', state.firing, state.history ++ [TimerEvent.called call]⟩, ?_, ?_⟩
  · rw [step, calls]
    rfl
  · refine ⟨⟨epoch, isEpoch, by simpa using represents'⟩, ?_, fires.concat (by simp)⟩
    intro now' isFiring
    obtain ⟨isNow, before, during, made, fired, undone, split, inside, sound, isPending⟩ := firing now' isFiring
    obtain ⟨made', undone', isPending'⟩ := @Agenda.Firing.called _ _ clock _ _ _ _ _ isPending call
    refine ⟨now.trans isNow, before, during ++ [TimerEvent.called call], made', fired, undone', ?_, ?_, sound, ?_⟩
    · simp [split]
    · intro event member
      rcases List.mem_append.mp member with old | new
      · exact inside event old
      · rw [List.mem_singleton.mp new]
        trivial
    · simpa using isPending'

/-- The loop fires the next timer, or it ends because nothing is due. -/
theorem loop_valid {clock : Clock} {epoch : Nat} {scheduler : TimerScheduler maxTimers Listener}
    {history : List (TimerEvent maxTimers Listener)} {now : UInt32} (firing : Option UInt32)
    (isEpoch : clock.Epoch epoch) (represents : scheduler.Represents epoch (clock.agenda history))
    (isNow : scheduler.now = now) (pending : Pending clock history now) (fires : FiresAll clock history) :
    ∃ state', loop ⟨scheduler, firing, history⟩ now = .ok state' ∧ state'.Valid clock := by
  obtain ⟨before, during, made, fired, undone, split, inside, sound, isPending⟩ := pending
  subst isNow
  rcases represents.fireNext with ⟨returns, nothingDue⟩ |
      ⟨s, elapsed, member, isDue, first, firesNext, isElapsed, represents'⟩
  · refine ⟨⟨scheduler, none, history ++ [TimerEvent.returned]⟩, ?_, ⟨epoch, isEpoch, by simpa [Agenda.record] using represents⟩,
      fun _ isFiring => (nomatch isFiring), ?_⟩
    · rw [loop, returns]
      rfl
    · intro before' now' during' isPrefix inside'
      rcases List.prefix_concat_iff.mp isPrefix with same | earlier
      · have whole := (List.append_singleton_inj.mp same).1
        obtain ⟨rfl, rfl, rfl⟩ := split_unique inside' inside (whole.trans split)
        rw [← split]
        exact ⟨made, fired, undone, isPending.finish sound represents.sound nothingDue⟩
      · exact fires before' now' during' earlier inside'
  · refine ⟨⟨scheduler.unschedule s.timer, some scheduler.now, history ++ [TimerEvent.fired s.timer s.listener elapsed]⟩, ?_,
      ⟨epoch, isEpoch, by simpa [Agenda.record] using represents'⟩, ?_, fires.concat (by simp)⟩
    · rw [loop, firesNext]
      rfl
    · intro now' isFiring
      obtain rfl := Option.some.inj isFiring
      have same : (scheduler.unschedule s.timer).now = scheduler.now := by
        unfold TimerScheduler.unschedule
        split <;> rfl
      refine ⟨same, before, during ++ [TimerEvent.fired s.timer s.listener elapsed], made, fired ++ [s], undone, ?_, ?_,
        sound, ?_⟩
      · simp [split]
      · intro event member
        rcases List.mem_append.mp member with old | new
        · exact inside event old
        · rw [List.mem_singleton.mp new]
          trivial
      · have next := isPending.fire represents.sound member isDue first
        rw [← isElapsed] at next
        simpa [Agenda.record] using next

theorem Valid.step {clock : Clock} {state : TimerRun maxTimers Listener} (valid : state.Valid clock)
    {step : TimerStep maxTimers Listener} (may : state.MayTake clock step) :
    ∃ state', state.step step = .ok state' ∧ state'.Valid clock := by
  cases step with
  | call call => exact valid.call may
  | setTime now =>
      obtain ⟨⟨epoch, isEpoch, represents⟩, -, fires⟩ := valid
      obtain ⟨epoch', isEpoch', represents'⟩ := Clock.setTime isEpoch represents may.2
      have isPending := (clock.agenda state.history).firing_setTime (clock.tick (clock.agenda state.history).now now)
      exact loop_valid state.firing isEpoch' (by simpa [Agenda.record] using represents') rfl
        ⟨state.history, [], [], [], [], rfl, by simp, represents.sound, by simpa [Agenda.record] using isPending⟩
        (fires.concat (by simp))
  | resume =>
      cases isFiring : state.firing with
      | none => exact absurd isFiring may
      | some now =>
          obtain ⟨⟨epoch, isEpoch, represents⟩, firing, fires⟩ := valid
          obtain ⟨isNow, pending⟩ := firing now isFiring
          rw [TimerRun.step, isFiring]
          exact loop_valid state.firing isEpoch represents isNow pending fires

theorem valid_create (clock : Clock) : (create : TimerRun maxTimers Listener).Valid clock := by
  refine ⟨⟨0, ?_, TimerScheduler.represents_create⟩, fun _ isFiring => (nomatch isFiring), ?_⟩
  · cases clock with
    | told => rfl
    | elapsed => exact Nat.dvd_zero _
  · intro before now during isPrefix
    exact absurd (List.prefix_nil.mp isPrefix) (by simp)

/-- Whatever is done with a scheduler, and by whomever. -/
theorem Valid.run {clock : Clock} {state : TimerRun maxTimers Listener} (valid : state.Valid clock)
    {steps : List (TimerStep maxTimers Listener)} (permits : state.Permits clock steps) :
    ∃ state', state.run steps = .ok state' ∧ state'.Valid clock := by
  induction steps generalizing state with
  | nil => exact ⟨state, rfl, valid⟩
  | cons step steps ih =>
      obtain ⟨state', steps', valid'⟩ := valid.step permits.1
      unfold TimerRun.run at ih ⊢
      rw [List.foldlM_cons, steps']
      exact ih valid' (permits.2 state' steps')

end TimerRun

/-! ## What the scheduler does -/

/-- In every run in which the fire times fit into 32 bits: each timer is in one list, the
    scheduled ones are those with a listener and in the order in which they are due, and a
    call of `SetTime` that has returned fired what was due, once each and in that order. -/
theorem timers_of_run {steps : List (TimerStep maxTimers Listener)}
    (permits : (TimerRun.create : TimerRun maxTimers Listener).Permits .told steps) :
    ∃ state, (TimerRun.create : TimerRun maxTimers Listener).run steps = .ok state ∧ state.scheduler.Linked ∧
      (∃ queue, state.scheduler.Queues 0 (Clock.told.agenda state.history) queue) ∧
      FiresAll .told state.history := by
  obtain ⟨state, runs, valid⟩ := (TimerRun.valid_create .told).run permits
  obtain ⟨⟨epoch, isEpoch, represents⟩, -, fires⟩ := valid
  obtain rfl : epoch = 0 := isEpoch
  exact ⟨state, runs, represents.linked, represents.queue, fires⟩

/-- Two timers are due. The listener of the first one takes the second one out and schedules
    its own timer again, for now. -/
def busySteps : List (TimerStep 2 Unit) :=
  [.call .createTimer, .call .createTimer, .call (.schedule 0 (some ()) 10), .call (.schedule 1 (some ()) 10),
    .setTime 12, .call (.unschedule 1), .call (.schedule 0 (some ()) 0), .resume, .call (.schedule 1 (some ()) 3),
    .resume]

theorem timers_busySteps :
    ∃ state, (TimerRun.create : TimerRun 2 Unit).run busySteps = .ok state ∧
      (Clock.told.agenda state.history).fired.map (·.elapsed) = [12, 0] ∧ state.scheduler.scheduled = [1] ∧
      state.scheduler.Linked ∧ (∃ queue, state.scheduler.Queues 0 (Clock.told.agenda state.history) queue) ∧
      FiresAll .told state.history := by
  obtain ⟨state, runs, claims⟩ := @timers_of_run 2 Unit busySteps (by decide +kernel)
  have seen : ((TimerRun.create : TimerRun 2 Unit).run busySteps).map (fun state =>
      ((Clock.told.agenda state.history).fired.map (·.elapsed), state.scheduler.scheduled)) = .ok ([12, 0], [1]) := by
    decide +kernel
  rw [runs] at seen
  have both := Prod.mk.inj (Except.ok.inj seen)
  exact ⟨state, runs, both.1, both.2, claims⟩

/-- In every run in which the fire times fit into 32 bits and the clock does not begin again
    while a timer is scheduled: no assertion fails, and what fires and is told is right by the
    time that has passed. -/
theorem elapsed_of_run {steps : List (TimerStep maxTimers Listener)}
    (permits : (TimerRun.create : TimerRun maxTimers Listener).Permits .elapsed steps) :
    ∃ state, (TimerRun.create : TimerRun maxTimers Listener).run steps = .ok state ∧
      FiresAll .elapsed state.history := by
  obtain ⟨state, runs, valid⟩ := (TimerRun.valid_create .elapsed).run permits
  exact ⟨state, runs, valid.fires⟩

/-- The clock begins again when nothing is scheduled. -/
def overnightSteps : List (TimerStep 1 Unit) :=
  [.call .createTimer, .setTime 4294967290, .call (.schedule 0 (some ()) 5), .setTime 4294967295, .resume, .setTime 3,
    .call (.schedule 0 (some ()) 7), .setTime 10, .resume]

theorem elapsed_overnightSteps :
    ∃ state, (TimerRun.create : TimerRun 1 Unit).run overnightSteps = .ok state ∧
      (Clock.elapsed.agenda state.history).fired.map (·.elapsed) = [5, 7] ∧
      (Clock.elapsed.agenda state.history).now = 4294967306 ∧ FiresAll .elapsed state.history := by
  obtain ⟨state, runs, claims⟩ := @elapsed_of_run 1 Unit overnightSteps (by decide +kernel)
  have seen : ((TimerRun.create : TimerRun 1 Unit).run overnightSteps).map (fun state =>
      ((Clock.elapsed.agenda state.history).fired.map (·.elapsed), (Clock.elapsed.agenda state.history).now)) =
      .ok ([5, 7], 4294967306) := by
    decide +kernel
  rw [runs] at seen
  have both := Prod.mk.inj (Except.ok.inj seen)
  exact ⟨state, runs, both.1, both.2, claims⟩

/-- A timer is scheduled one millisecond before the clock begins again. -/
def lateSteps : List (TimerStep 1 Unit) :=
  [.call .createTimer, .setTime 4294967295, .call (.schedule 0 (some ()) 2)]

/-- A timer is due before the clock begins again, and the time is set after that. -/
def missedSteps : List (TimerStep 1 Unit) :=
  [.call .createTimer, .setTime 4294967290, .call (.schedule 0 (some ()) 4), .setTime 3]

def missedHistory : List (TimerEvent 1 Unit) :=
  [.called .createTimer, .setTime 4294967290, .returned, .called (.schedule 0 (some ()) 4)]

/-- The late timer fires before its time, and when its time has come the assertion on its start
    time fails. The missed timer does not fire. -/
theorem late_and_missed_wrong :
    ((TimerRun.create : TimerRun 1 Unit).run (lateSteps ++ [TimerStep.setTime 4294967295])).map (·.history.getLast?) =
        .ok (some (.fired 0 () 0)) ∧
      ((TimerRun.create : TimerRun 1 Unit).run (lateSteps ++ [TimerStep.setTime 1])).map (·.history) = .error .assertion ∧
      ∃ state, (TimerRun.create : TimerRun 1 Unit).run missedSteps = .ok state ∧
        ¬ FiresAll .elapsed state.history := by
  refine ⟨by decide +kernel, by decide +kernel, ?_⟩
  have seen : ((TimerRun.create : TimerRun 1 Unit).run missedSteps).map (·.history) =
      .ok (missedHistory ++ [TimerEvent.setTime 3, .returned]) := by
    decide +kernel
  cases runs : (TimerRun.create : TimerRun 1 Unit).run missedSteps with
  | error fault =>
      rw [runs] at seen
      exact nomatch seen
  | ok state =>
      rw [runs] at seen
      have history : state.history = missedHistory ++ [TimerEvent.setTime 3, .returned] := Except.ok.inj seen
      refine ⟨state, rfl, fun firesAll => ?_⟩
      rw [history] at firesAll
      obtain ⟨made, fired, undone, fires⟩ := firesAll missedHistory 3 [] (by simp) (by simp)
      have due := fires.nothingDue ⟨0, 0, (), 4294967290, 4294967294⟩ (by decide +kernel)
      exact absurd due (by decide +kernel)

end GoldenGate
