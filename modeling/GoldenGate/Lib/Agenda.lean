import Mathlib.Data.List.Nodup
import Mathlib.Data.List.Perm.Basic

/-! # Agendas

What a queue of timers is for, with no queue in it. A scheduling of a timer is pending until
it fires or is undone, and scheduling a timer again undoes what was pending for it. An agenda
remembers all that became of the schedulings, so that a period of its life can be compared
with what a queue did in it.
-/

namespace GoldenGate

structure Scheduling (Timer Listener : Type) where
  id : Nat
  timer : Timer
  listener : Listener
  start : Nat
  due : Nat
  deriving Repr, DecidableEq

/-- What a listener was told, and the scheduling it was told about. -/
structure Notice (Timer Listener : Type) where
  about : Option (Scheduling Timer Listener)
  listener : Listener
  elapsed : Nat
  deriving Repr, DecidableEq

structure Agenda (Timer Listener : Type) where
  now : Nat
  made : List (Scheduling Timer Listener)
  pending : List (Scheduling Timer Listener)
  fired : List (Notice Timer Listener)
  undone : List (Scheduling Timer Listener)
  deriving Repr, DecidableEq

namespace Agenda

variable {Timer Listener : Type}

def empty : Agenda Timer Listener := ⟨0, [], [], [], []⟩

def setTime (agenda : Agenda Timer Listener) (now : Nat) : Agenda Timer Listener :=
  { agenda with now := now }

/-- The schedulings that have fired. -/
def done (agenda : Agenda Timer Listener) : List (Scheduling Timer Listener) :=
  agenda.fired.filterMap (·.about)

/-- Schedulings are numbered, are due after they were made, and each has one fate. -/
structure Sound (agenda : Agenda Timer Listener) : Prop where
  ids : agenda.made.map (·.id) = List.range agenda.made.length
  start_le : ∀ scheduling ∈ agenda.made, scheduling.start ≤ scheduling.due
  accounted : agenda.made.Perm (agenda.pending ++ (agenda.done ++ agenda.undone))
  timers : agenda.pending.Pairwise (fun s s' => s.timer ≠ s'.timer)

theorem Sound.nodup {agenda : Agenda Timer Listener} (sound : agenda.Sound) : agenda.made.Nodup := by
  apply List.Nodup.of_map (·.id)
  rw [sound.ids]
  exact List.nodup_range

theorem Sound.id_lt {agenda : Agenda Timer Listener} (sound : agenda.Sound)
    {scheduling : Scheduling Timer Listener} (made : scheduling ∈ agenda.made) :
    scheduling.id < agenda.made.length := by
  have member : scheduling.id ∈ agenda.made.map (·.id) := List.mem_map_of_mem made
  rw [sound.ids] at member
  exact List.mem_range.mp member

theorem Sound.made_of_pending {agenda : Agenda Timer Listener} (sound : agenda.Sound)
    {scheduling : Scheduling Timer Listener} (pending : scheduling ∈ agenda.pending) :
    scheduling ∈ agenda.made :=
  sound.accounted.mem_iff.mpr (List.mem_append_left _ pending)

theorem sound_empty : (empty : Agenda Timer Listener).Sound :=
  ⟨rfl, by simp [empty], by simp [empty, done], by simp [empty]⟩

theorem Sound.setTime {agenda : Agenda Timer Listener} (sound : agenda.Sound) (now : Nat) :
    (agenda.setTime now).Sound :=
  ⟨sound.ids, sound.start_le, sound.accounted, sound.timers⟩

section Operations

variable [DecidableEq Timer]

/-- What is pending for other timers. -/
def without (agenda : Agenda Timer Listener) (timer : Timer) : List (Scheduling Timer Listener) :=
  agenda.pending.filter (·.timer ≠ timer)

def undo (agenda : Agenda Timer Listener) (timer : Timer) : Agenda Timer Listener :=
  { agenda with
    pending := agenda.without timer
    undone := agenda.undone ++ agenda.pending.filter (·.timer = timer) }

/-- The scheduling that is made next. -/
def next (agenda : Agenda Timer Listener) (timer : Timer) (listener : Listener) (delay : Nat) :
    Scheduling Timer Listener :=
  ⟨agenda.made.length, timer, listener, agenda.now, agenda.now + delay⟩

def schedule (agenda : Agenda Timer Listener) (timer : Timer) (listener : Listener) (delay : Nat) :
    Agenda Timer Listener :=
  { agenda.undo timer with
    made := agenda.made ++ [agenda.next timer listener delay]
    pending := agenda.without timer ++ [agenda.next timer listener delay] }

def fire (agenda : Agenda Timer Listener) (timer : Timer) (listener : Listener) (elapsed : Nat) :
    Agenda Timer Listener :=
  { agenda with
    pending := agenda.without timer
    fired := agenda.fired ++ [⟨agenda.pending.find? (·.timer = timer), listener, elapsed⟩] }

/-! ## Nothing is lost -/

theorem Sound.timers_without {agenda : Agenda Timer Listener} (sound : agenda.Sound) (timer : Timer) :
    (agenda.without timer).Pairwise (fun s s' => s.timer ≠ s'.timer) :=
  sound.timers.filter _

/-- What is pending is pending for the timer or for others. -/
theorem pending_split (agenda : Agenda Timer Listener) (timer : Timer) :
    agenda.pending.Perm (agenda.without timer ++ agenda.pending.filter (·.timer = timer)) := by
  have split := List.filter_append_perm (fun s : Scheduling Timer Listener => decide (s.timer ≠ timer))
    agenda.pending
  simpa [without] using split.symm

theorem Sound.undo {agenda : Agenda Timer Listener} (sound : agenda.Sound) (timer : Timer) :
    (agenda.undo timer).Sound := by
  constructor
  · exact sound.ids
  · exact sound.start_le
  · have split := (agenda.pending_split timer).append_right (agenda.done ++ agenda.undone)
    refine (sound.accounted.trans split).trans ?_
    rw [List.append_assoc]
    apply List.Perm.append_left
    change (_ ++ (agenda.done ++ agenda.undone)).Perm (agenda.done ++ (agenda.undone ++ _))
    rw [← List.append_assoc agenda.done]
    exact List.perm_append_comm
  · exact sound.timers_without timer

theorem Sound.schedule {agenda : Agenda Timer Listener} (sound : agenda.Sound) (timer : Timer)
    (listener : Listener) (delay : Nat) : (agenda.schedule timer listener delay).Sound := by
  constructor
  · change (agenda.made ++ [agenda.next timer listener delay]).map (·.id) = List.range (agenda.made ++ [_]).length
    rw [List.map_append, sound.ids, List.length_append, List.length_singleton, List.range_succ]
    rfl
  · intro scheduling member
    rcases List.mem_append.mp member with old | new
    · exact sound.start_le scheduling old
    · rw [List.mem_singleton.mp new]
      exact Nat.le_add_right _ _
  · change (agenda.made ++ [_]).Perm ((agenda.without timer ++ [_]) ++ _)
    refine ((sound.undo timer).accounted.append_right _).trans ?_
    rw [List.append_assoc (agenda.without timer)]
    change (agenda.without timer ++ _ ++ [_]).Perm _
    rw [List.append_assoc]
    exact List.Perm.append_left _ List.perm_append_comm
  · change (agenda.without timer ++ [_]).Pairwise _
    rw [List.pairwise_append]
    refine ⟨sound.timers_without timer, List.pairwise_singleton _ _, ?_⟩
    intro scheduling member other new
    rw [List.mem_singleton.mp new]
    simpa [next] using (List.mem_filter.mp member).2

/-- The one scheduling that is pending for a timer. -/
theorem Sound.pending_of_timer {agenda : Agenda Timer Listener} (sound : agenda.Sound)
    {scheduling : Scheduling Timer Listener} (member : scheduling ∈ agenda.pending) :
    agenda.pending.filter (·.timer = scheduling.timer) = [scheduling] ∧
      agenda.pending.find? (·.timer = scheduling.timer) = some scheduling := by
  obtain ⟨before, after, split⟩ := List.append_of_mem member
  have timers := sound.timers
  rw [split, List.pairwise_append, List.pairwise_cons] at timers
  obtain ⟨-, ⟨different, -⟩, across⟩ := timers
  have earlier : ∀ s ∈ before, ¬ s.timer = scheduling.timer := fun s inBefore =>
    across s inBefore scheduling List.mem_cons_self
  have later : ∀ s ∈ after, ¬ s.timer = scheduling.timer := fun s inAfter same =>
    different s inAfter same.symm
  rw [split, List.filter_append, List.filter_cons_of_pos (by simp), List.find?_append]
  constructor
  · rw [List.filter_eq_nil_iff.mpr (by simpa using earlier), List.filter_eq_nil_iff.mpr (by simpa using later)]
    rfl
  · rw [List.find?_eq_none.mpr (by simpa using earlier), List.find?_cons_of_pos (by simp)]
    rfl

theorem Sound.fire {agenda : Agenda Timer Listener} (sound : agenda.Sound)
    {scheduling : Scheduling Timer Listener} (member : scheduling ∈ agenda.pending) (listener : Listener)
    (elapsed : Nat) : (agenda.fire scheduling.timer listener elapsed).Sound := by
  obtain ⟨only, found⟩ := sound.pending_of_timer member
  constructor
  · exact sound.ids
  · exact sound.start_le
  · have split := (agenda.pending_split scheduling.timer).append_right (agenda.done ++ agenda.undone)
    rw [only] at split
    refine (sound.accounted.trans split).trans ?_
    rw [List.append_assoc]
    apply List.Perm.append_left
    have told : (agenda.fire scheduling.timer listener elapsed).done = agenda.done ++ [scheduling] := by
      simp [done, Agenda.fire, found]
    rw [told, List.append_assoc]
    exact (@List.perm_middle _ scheduling agenda.done agenda.undone).symm
  · exact sound.timers_without _

end Operations

/-! ## Periods -/

/-- What became of an agenda between two moments. -/
structure Period (agenda agenda' : Agenda Timer Listener) (made fired undone : List (Scheduling Timer Listener)) :
    Prop where
  isMade : agenda'.made = agenda.made ++ made
  isFired : agenda'.done = agenda.done ++ fired
  isUndone : agenda'.undone = agenda.undone ++ undone

/-- What was pending or was made has fired, was undone or is pending. -/
theorem Period.perm {agenda agenda' : Agenda Timer Listener} {made fired undone : List (Scheduling Timer Listener)}
    (period : Period agenda agenda' made fired undone) (sound : agenda.Sound) (sound' : agenda'.Sound) :
    (agenda.pending ++ made).Perm (agenda'.pending ++ (fired ++ undone)) := by
  have before := sound.accounted.append_right made
  have after := sound'.accounted
  rw [period.isMade, period.isFired, period.isUndone] at after
  have both := before.symm.trans after
  apply (List.perm_append_left_iff (agenda.done ++ agenda.undone)).mp
  have left : (agenda.done ++ agenda.undone ++ (agenda.pending ++ made)).Perm
      (agenda.pending ++ (agenda.done ++ agenda.undone) ++ made) := by
    rw [← List.append_assoc]
    exact List.perm_append_comm.append_right made
  refine (left.trans both).trans ?_
  classical
  rw [List.perm_iff_count]
  intro scheduling
  simp only [List.count_append]
  omega

/-- When what fired was due and what is pending is not, the due ones have fired, each once,
    unless they were undone. -/
theorem Period.fired_iff {agenda agenda' : Agenda Timer Listener}
    {made fired undone : List (Scheduling Timer Listener)} (period : Period agenda agenda' made fired undone)
    (sound : agenda.Sound) (sound' : agenda'.Sound) {now : Nat} (isDue : ∀ s ∈ fired, s.due ≤ now)
    (notDue : ∀ s ∈ agenda'.pending, now < s.due) :
    fired.Nodup ∧ ∀ s, s ∈ fired ↔ (s ∈ agenda.pending ∨ s ∈ made) ∧ s.due ≤ now ∧ s ∉ undone := by
  have perm := period.perm sound sound'
  have nodup : (agenda'.pending ++ (fired ++ undone)).Nodup := by
    apply perm.nodup_iff.mp
    have whole := sound'.nodup
    rw [period.isMade] at whole
    exact (sound.accounted.append_right made |>.nodup_iff.mp whole).sublist
      ((List.sublist_append_left agenda.pending _).append_right made)
  obtain ⟨-, ends, -⟩ := List.nodup_append.mp nodup
  obtain ⟨once, -, apart⟩ := List.nodup_append.mp ends
  refine ⟨once, fun s => ⟨?_, ?_⟩⟩
  · intro member
    have origin : s ∈ agenda.pending ++ made :=
      perm.mem_iff.mpr (List.mem_append_right _ (List.mem_append_left _ member))
    exact ⟨List.mem_append.mp origin, isDue s member, fun alsoUndone => apart s member s alsoUndone rfl⟩
  · rintro ⟨origin, due, notUndone⟩
    rcases List.mem_append.mp (perm.mem_iff.mp (List.mem_append.mpr origin)) with isPending | ended
    · exact absurd (notDue s isPending) (Nat.not_lt.mpr due)
    · exact (List.mem_append.mp ended).resolve_right notUndone

/-! ## Firing what is due -/

/-- What the listener of a scheduling has to be told. -/
def told (now : Nat) (scheduling : Scheduling Timer Listener) : Notice Timer Listener :=
  ⟨some scheduling, scheduling.listener, now - scheduling.start⟩

/-- In the period the schedulings that were due have fired, the earliest first, and have been
    told so, unless they were undone. Nothing is due any more. -/
structure Fires (agenda agenda' : Agenda Timer Listener) (made fired undone : List (Scheduling Timer Listener)) :
    Prop where
  isMade : agenda'.made = agenda.made ++ made
  isUndone : agenda'.undone = agenda.undone ++ undone
  isTold : agenda'.fired = agenda.fired ++ fired.map (told agenda'.now)
  inOrder : fired.Pairwise (·.due ≤ ·.due)
  once : fired.Nodup
  exactly : ∀ s, s ∈ fired ↔ (s ∈ agenda.pending ∨ s ∈ made) ∧ s.due ≤ agenda'.now ∧ s ∉ undone
  nothingDue : ∀ s ∈ agenda'.pending, agenda'.now < s.due

/-- The same in the middle: what has fired was not later than what is pending. -/
structure Firing (agenda agenda' : Agenda Timer Listener) (made fired undone : List (Scheduling Timer Listener)) :
    Prop where
  isMade : agenda'.made = agenda.made ++ made
  isUndone : agenda'.undone = agenda.undone ++ undone
  isTold : agenda'.fired = agenda.fired ++ fired.map (told agenda'.now)
  inOrder : fired.Pairwise (·.due ≤ ·.due)
  wasDue : ∀ s ∈ fired, s.due ≤ agenda'.now
  earlier : ∀ s ∈ fired, ∀ s' ∈ agenda'.pending, s.due ≤ s'.due

theorem firing_setTime (agenda : Agenda Timer Listener) (now : Nat) :
    Firing agenda (agenda.setTime now) [] [] [] := by
  constructor <;> simp [setTime]

theorem Firing.finish {agenda agenda' : Agenda Timer Listener} {made fired undone : List (Scheduling Timer Listener)}
    (firing : Firing agenda agenda' made fired undone) (sound : agenda.Sound) (sound' : agenda'.Sound)
    (nothingDue : ∀ s ∈ agenda'.pending, agenda'.now < s.due) : Fires agenda agenda' made fired undone := by
  have isFired : agenda'.done = agenda.done ++ fired := by
    have about : (fired.map (told agenda'.now)).filterMap (·.about) = fired := by
      rw [List.filterMap_map]
      exact List.filterMap_some
    rw [done, firing.isTold, List.filterMap_append, about]
    rfl
  have period : Period agenda agenda' made fired undone := ⟨firing.isMade, isFired, firing.isUndone⟩
  obtain ⟨once, exactly⟩ := period.fired_iff sound sound' firing.wasDue nothingDue
  exact ⟨firing.isMade, firing.isUndone, firing.isTold, firing.inOrder, once, exactly, nothingDue⟩

section Operations

variable [DecidableEq Timer] {agenda agenda' : Agenda Timer Listener}
  {made fired undone : List (Scheduling Timer Listener)}

theorem Firing.undo (firing : Firing agenda agenda' made fired undone) (timer : Timer) :
    Firing agenda (agenda'.undo timer) made fired (undone ++ agenda'.pending.filter (·.timer = timer)) := by
  constructor
  · exact firing.isMade
  · rw [Agenda.undo, firing.isUndone, List.append_assoc]
  · exact firing.isTold
  · exact firing.inOrder
  · exact firing.wasDue
  · intro s member s' pending
    exact firing.earlier s member s' (List.mem_of_mem_filter pending)

/-- What is scheduled now is not due before now. -/
theorem Firing.schedule (firing : Firing agenda agenda' made fired undone) (timer : Timer) (listener : Listener)
    (delay : Nat) :
    Firing agenda (agenda'.schedule timer listener delay) (made ++ [agenda'.next timer listener delay]) fired
      (undone ++ agenda'.pending.filter (·.timer = timer)) := by
  constructor
  · rw [Agenda.schedule, firing.isMade, List.append_assoc]
  · exact (firing.undo timer).isUndone
  · exact firing.isTold
  · exact firing.inOrder
  · exact firing.wasDue
  · intro s member s' pending
    rcases List.mem_append.mp pending with old | new
    · exact firing.earlier s member s' (List.mem_of_mem_filter old)
    · rw [List.mem_singleton.mp new]
      exact Nat.le_trans (firing.wasDue s member) (Nat.le_add_right _ _)

/-- The next to fire is one that none comes before. -/
theorem Firing.fire (firing : Firing agenda agenda' made fired undone) (sound : agenda'.Sound)
    {scheduling : Scheduling Timer Listener} (member : scheduling ∈ agenda'.pending)
    (isDue : scheduling.due ≤ agenda'.now) (first : ∀ s ∈ agenda'.pending, scheduling.due ≤ s.due) :
    Firing agenda (agenda'.fire scheduling.timer scheduling.listener (agenda'.now - scheduling.start)) made
      (fired ++ [scheduling]) undone := by
  constructor
  · exact firing.isMade
  · exact firing.isUndone
  · rw [Agenda.fire, firing.isTold, (sound.pending_of_timer member).2, List.map_append, List.append_assoc]
    rfl
  · rw [List.pairwise_append]
    refine ⟨firing.inOrder, List.pairwise_singleton _ _, ?_⟩
    intro s isFired s' new
    rw [List.mem_singleton.mp new]
    exact firing.earlier s isFired scheduling member
  · intro s isFired
    rcases List.mem_append.mp isFired with old | new
    · exact firing.wasDue s old
    · rw [List.mem_singleton.mp new]
      exact isDue
  · intro s isFired s' pending
    have still := List.mem_of_mem_filter pending
    rcases List.mem_append.mp isFired with old | new
    · exact firing.earlier s old s' still
    · rw [List.mem_singleton.mp new]
      exact first s' still

end Operations

end Agenda

end GoldenGate
