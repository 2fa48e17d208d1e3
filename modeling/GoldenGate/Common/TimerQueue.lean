import GoldenGate.Common.Timer
import Mathlib.Data.List.Sort

/-! # The queue of a timer scheduler

The scheduled timers of a scheduler are the pending schedulings of an agenda, in the order in
which they are due. The times of the agenda do not wrap; those of the scheduler are offsets
from an epoch.
-/

namespace GoldenGate

open Memory

variable {maxTimers : Nat} {Listener : Type}

/-- The order of the queue: by due time, and by age for equal ones. -/
def Scheduling.Before {Timer Listener : Type} (s s' : Scheduling Timer Listener) : Prop :=
  s.due < s'.due ∨ s.due = s'.due ∧ s.id < s'.id

namespace TimerScheduler

/-- Each timer is in exactly one of the lists, and in the scheduled one when it has a listener. -/
structure Linked (scheduler : TimerScheduler maxTimers Listener) : Prop where
  once : ∀ timer, (scheduler.scheduled ++ (scheduler.frozen ++ scheduler.nursery)).count timer = 1
  listening : ∀ timer, timer ∈ scheduler.scheduled ↔ (scheduler.timers timer).listener.isSome

/-- The fields of a timer are those of its scheduling. -/
structure Holds (epoch : Nat) (timers : Fin maxTimers → Timer Listener)
    (scheduling : Scheduling (Fin maxTimers) Listener) : Prop where
  listener : (timers scheduling.timer).listener = some scheduling.listener
  start : scheduling.start = epoch + (timers scheduling.timer).startTime.toNat
  due : scheduling.due = epoch + (timers scheduling.timer).fireTime.toNat

/-- The scheduled timers are what is pending, sorted. -/
structure Queues (epoch : Nat) (scheduler : TimerScheduler maxTimers Listener) (agenda : Agenda (Fin maxTimers) Listener)
    (queue : List (Scheduling (Fin maxTimers) Listener)) : Prop where
  now : agenda.now = epoch + scheduler.now.toNat
  timers : scheduler.scheduled = queue.map (·.timer)
  holds : ∀ scheduling ∈ queue, Holds epoch scheduler.timers scheduling
  sorted : queue.Pairwise Scheduling.Before
  pending : queue.Perm agenda.pending

/-- A scheduler does what an agenda says. -/
structure Represents (epoch : Nat) (scheduler : TimerScheduler maxTimers Listener)
    (agenda : Agenda (Fin maxTimers) Listener) : Prop where
  linked : scheduler.Linked
  sound : agenda.Sound
  queue : ∃ queue, scheduler.Queues epoch agenda queue

theorem represents_create : (create : TimerScheduler maxTimers Listener).Represents 0 .empty := by
  refine ⟨⟨?_, by simp [create]⟩, Agenda.sound_empty, [], rfl, rfl, by simp, .nil, .nil⟩
  intro timer
  exact List.count_eq_one_of_mem (List.nodup_finRange maxTimers) (List.mem_finRange timer)

/-! ## Taking a timer out -/

/-- A timer that is taken out of its list can be put into any. -/
theorem Linked.relink {scheduler : TimerScheduler maxTimers Listener} (linked : scheduler.Linked)
    (timer other : Fin maxTimers) :
    (scheduler.unlink timer).scheduled.count other + (scheduler.unlink timer).frozen.count other +
      (scheduler.unlink timer).nursery.count other + [timer].count other = 1 := by
  have once := linked.once other
  simp only [List.count_append] at once
  unfold unlink
  by_cases same : other = timer
  · have none : ∀ timers : List (Fin maxTimers), (timers.filter (· ≠ timer)).count other = 0 := by
      intro timers
      rw [List.count_eq_zero]
      simp [same]
    rw [none, none, none, same, List.count_singleton_self]
  · have all : ∀ timers : List (Fin maxTimers), (timers.filter (· ≠ timer)).count other = timers.count other :=
      fun timers => List.count_filter (by simpa using same)
    have zero : [timer].count other = 0 := by
      rw [List.count_eq_zero]
      simpa using same
    rw [all, all, all, zero]
    omega

/-- A timer leaves the queue, and what was pending for it is not pending any more. -/
theorem Represents.remove {epoch : Nat} {scheduler scheduler' : TimerScheduler maxTimers Listener}
    {agenda agenda' : Agenda (Fin maxTimers) Listener} {timer : Fin maxTimers}
    (represents : scheduler.Represents epoch agenda)
    (scheduled : scheduler'.scheduled = (scheduler.unlink timer).scheduled)
    (others : ∀ other, other ≠ timer → scheduler'.timers other = scheduler.timers other)
    (idle : (scheduler'.timers timer).listener = none) (now : scheduler'.now = scheduler.now)
    (once : ∀ other, (scheduler'.scheduled ++ (scheduler'.frozen ++ scheduler'.nursery)).count other = 1)
    (sound : agenda'.Sound) (pending : agenda'.pending = agenda.without timer) (time : agenda'.now = agenda.now) :
    scheduler'.Represents epoch agenda' := by
  obtain ⟨linked, -, queue, queues⟩ := represents
  refine ⟨⟨once, ?_⟩, sound, queue.filter (·.timer ≠ timer), ?_, ?_, ?_, queues.sorted.filter _, ?_⟩
  · intro other
    rw [scheduled, unlink]
    by_cases same : other = timer
    · simp [same, idle]
    · simp [same, others other same, linked.listening other]
  · rw [time, now, queues.now]
  · rw [scheduled, unlink, queues.timers]
    exact List.filter_map
  · intro scheduling member
    rw [List.mem_filter] at member
    have holds := queues.holds scheduling member.1
    have different : scheduling.timer ≠ timer := by simpa using member.2
    constructor
    · rw [others _ different, holds.listener]
    · rw [others _ different, holds.start]
    · rw [others _ different, holds.due]
  · rw [pending]
    exact queues.pending.filter _

/-- A timer that is not scheduled has nothing pending. -/
theorem Represents.undo_idle {epoch : Nat} {scheduler : TimerScheduler maxTimers Listener}
    {agenda : Agenda (Fin maxTimers) Listener} {timer : Fin maxTimers} (represents : scheduler.Represents epoch agenda)
    (idle : timer ∉ scheduler.scheduled) : agenda.undo timer = agenda := by
  obtain ⟨linked, sound, queue, queues⟩ := represents
  have different : ∀ scheduling ∈ agenda.pending, scheduling.timer ≠ timer := by
    intro scheduling member same
    apply idle
    rw [queues.timers, ← same]
    exact List.mem_map_of_mem (queues.pending.mem_iff.mpr member)
  have all : agenda.without timer = agenda.pending := List.filter_eq_self.mpr (by simpa using different)
  have none : agenda.pending.filter (·.timer = timer) = [] := List.filter_eq_nil_iff.mpr (by simpa using different)
  rw [Agenda.undo, all, none, List.append_nil]

theorem Represents.destroy {epoch : Nat} {scheduler : TimerScheduler maxTimers Listener}
    {agenda : Agenda (Fin maxTimers) Listener} (represents : scheduler.Represents epoch agenda) (timer : Fin maxTimers) :
    ∃ scheduler', scheduler.destroy timer = .ok scheduler' ∧ scheduler'.Represents epoch (agenda.undo timer) := by
  have linked : timer ∈ scheduler.scheduled ∨ timer ∈ scheduler.frozen ∨ timer ∈ scheduler.nursery := by
    have positive : 0 < (scheduler.scheduled ++ (scheduler.frozen ++ scheduler.nursery)).count timer := by
      rw [represents.linked.once timer]
      exact Nat.one_pos
    simpa using List.count_pos_iff.mp positive
  refine ⟨_, by rw [TimerScheduler.destroy, assert_of linked]; rfl, ?_⟩
  refine represents.remove rfl ?_ ?_ rfl ?_ (represents.sound.undo timer) rfl rfl
  · intro other different
    exact Function.update_of_ne different _ _
  · simp [unlink, set]
  · intro other
    have once := represents.linked.relink timer other
    simp only [List.count_append]
    change (scheduler.unlink timer).scheduled.count other + ((scheduler.unlink timer).frozen.count other +
      ((scheduler.unlink timer).nursery.count other + [timer].count other)) = 1
    omega

/-- `unschedule` of a timer that is scheduled, for any agenda that has dropped it. -/
theorem Represents.unschedule {epoch : Nat} {scheduler : TimerScheduler maxTimers Listener}
    {agenda agenda' : Agenda (Fin maxTimers) Listener} {timer : Fin maxTimers}
    (represents : scheduler.Represents epoch agenda) (scheduled : timer ∈ scheduler.scheduled)
    (sound : agenda'.Sound) (pending : agenda'.pending = agenda.without timer) (time : agenda'.now = agenda.now) :
    (scheduler.unschedule timer).Represents epoch agenda' := by
  obtain ⟨listener, isSome⟩ := Option.isSome_iff_exists.mp ((represents.linked.listening timer).mp scheduled)
  rw [TimerScheduler.unschedule, isSome]
  refine represents.remove rfl ?_ ?_ rfl ?_ sound pending time
  · intro other different
    exact Function.update_of_ne different _ _
  · simp [set]
  · intro other
    have once := represents.linked.relink timer other
    simp only [List.count_append]
    change (scheduler.unlink timer).scheduled.count other +
      ((timer :: (scheduler.unlink timer).frozen).count other + (scheduler.unlink timer).nursery.count other) = 1
    rw [← List.singleton_append, List.count_append]
    omega

theorem Represents.unschedules {epoch : Nat} {scheduler : TimerScheduler maxTimers Listener}
    {agenda : Agenda (Fin maxTimers) Listener} (represents : scheduler.Represents epoch agenda)
    (timer : Fin maxTimers) : (scheduler.unschedule timer).Represents epoch (agenda.undo timer) := by
  by_cases scheduled : timer ∈ scheduler.scheduled
  · exact represents.unschedule scheduled (represents.sound.undo timer) rfl rfl
  · have idle : (scheduler.timers timer).listener = none := by
      rw [← Option.not_isSome_iff_eq_none, ← represents.linked.listening timer]
      exact scheduled
    rw [represents.undo_idle scheduled, TimerScheduler.unschedule, idle]
    exact represents

theorem Represents.createTimer {epoch : Nat} {scheduler : TimerScheduler maxTimers Listener}
    {agenda : Agenda (Fin maxTimers) Listener} (represents : scheduler.Represents epoch agenda) :
    scheduler.createTimer.1.Represents epoch agenda := by
  unfold TimerScheduler.createTimer
  split
  · exact represents
  · rename_i timer rest nursery
    have idle : timer ∉ scheduler.scheduled := by
      intro scheduled
      have once := represents.linked.once timer
      rw [nursery, List.count_append, List.count_append, List.count_cons_self] at once
      have positive := List.count_pos_iff.mpr scheduled
      omega
    rw [← represents.undo_idle idle]
    refine represents.remove rfl ?_ ?_ rfl ?_ (represents.sound.undo timer) rfl rfl
    · intro other different
      exact Function.update_of_ne different _ _
    · simp [set]
    · intro other
      have once := represents.linked.relink timer other
      simp only [List.count_append]
      change (scheduler.unlink timer).scheduled.count other +
        (((scheduler.unlink timer).frozen ++ [timer]).count other + (scheduler.unlink timer).nursery.count other) = 1
      rw [List.count_append]
      omega

/-! ## Putting a timer in -/

/-- The queue takes a new scheduling behind those that are due at the same time. -/
def insert {Timer Listener : Type} (scheduling : Scheduling Timer Listener)
    (queue : List (Scheduling Timer Listener)) : List (Scheduling Timer Listener) :=
  queue.orderedInsert (fun s s' => s.due < s'.due) scheduling

theorem insert_sorted {Timer Listener : Type} {scheduling : Scheduling Timer Listener}
    {queue : List (Scheduling Timer Listener)} (sorted : queue.Pairwise Scheduling.Before)
    (newest : ∀ s ∈ queue, s.id < scheduling.id) : (insert scheduling queue).Pairwise Scheduling.Before := by
  induction queue with
  | nil => exact List.pairwise_singleton _ _
  | cons s queue ih =>
      obtain ⟨first, rest⟩ := List.pairwise_cons.mp sorted
      unfold insert
      rw [List.orderedInsert]
      split
      · rename_i sooner
        refine List.pairwise_cons.mpr ⟨?_, sorted⟩
        intro s' member
        rcases List.mem_cons.mp member with rfl | later
        · exact .inl sooner
        · rcases first s' later with less | ⟨same, -⟩
          · exact .inl (Nat.lt_trans sooner less)
          · exact .inl (same ▸ sooner)
      · rename_i notSooner
        refine List.pairwise_cons.mpr ⟨?_, ih rest (fun s' member => newest s' (List.mem_cons_of_mem _ member))⟩
        intro s' member
        rcases List.mem_cons.mp ((List.perm_orderedInsert _ _ _).mem_iff.mp member) with rfl | later
        · rcases Nat.lt_or_eq_of_le (Nat.not_lt.mp notSooner) with less | same
          · exact .inl less
          · exact .inr ⟨same, newest s List.mem_cons_self⟩
        · exact first s' later

/-- The list of the scheduler is the queue of its schedulings before and after. -/
theorem insertScheduled_eq {epoch : Nat} {scheduler : TimerScheduler maxTimers Listener}
    {scheduling : Scheduling (Fin maxTimers) Listener} {queue : List (Scheduling (Fin maxTimers) Listener)}
    (holds : Holds epoch scheduler.timers scheduling) (others : ∀ s ∈ queue, Holds epoch scheduler.timers s) :
    insertScheduled scheduler.timers scheduling.timer (queue.map (·.timer)) =
      (insert scheduling queue).map (·.timer) := by
  induction queue with
  | nil => rfl
  | cons s queue ih =>
      have same : (scheduler.timers scheduling.timer).fireTime < (scheduler.timers s.timer).fireTime ↔
          scheduling.due < s.due := by
        rw [holds.due, (others s List.mem_cons_self).due, UInt32.lt_iff_toNat_lt]
        omega
      have rest := ih (fun s' member => others s' (List.mem_cons_of_mem _ member))
      unfold insert at rest ⊢
      rw [List.map_cons, insertScheduled, List.orderedInsert]
      by_cases sooner : scheduling.due < s.due
      · rw [if_pos (same.mpr sooner), if_pos sooner]
        rfl
      · rw [if_neg (fun less => sooner (same.mp less)), if_neg sooner, rest]
        rfl

/-- A timer that is out of its list and has the fields of a new scheduling. -/
def start (scheduler : TimerScheduler maxTimers Listener) (timer : Fin maxTimers) (listener : Listener)
    (msFromNow : UInt32) : TimerScheduler maxTimers Listener :=
  (scheduler.unlink timer).set timer ⟨some listener, scheduler.now, scheduler.now + msFromNow⟩

/-- The timer of a new scheduling is put into the queue. -/
theorem Represents.schedule {epoch : Nat} {scheduler : TimerScheduler maxTimers Listener}
    {agenda : Agenda (Fin maxTimers) Listener} (represents : scheduler.Represents epoch agenda)
    (timer : Fin maxTimers) (listener : Listener) (msFromNow : UInt32)
    (fits : scheduler.now.toNat + msFromNow.toNat < 2 ^ 32) :
    (scheduler.schedule timer (some listener) msFromNow).1.Represents epoch
      (agenda.schedule timer listener msFromNow.toNat) := by
  obtain ⟨linked, sound, queue, queues⟩ := represents
  have sum : (scheduler.now + msFromNow).toNat = scheduler.now.toNat + msFromNow.toNat := by
    rw [UInt32.toNat_add, Nat.mod_eq_of_lt fits]
  have others : ∀ s ∈ queue.filter (·.timer ≠ timer), s ∈ agenda.pending ∧ s.timer ≠ timer ∧
      Holds epoch (scheduler.start timer listener msFromNow).timers s := by
    intro s member
    rw [List.mem_filter] at member
    have different : s.timer ≠ timer := by simpa using member.2
    have holds := queues.holds s member.1
    refine ⟨queues.pending.mem_iff.mp member.1, different, ?_⟩
    constructor <;> simp only [start, set, unlink, Function.update_of_ne different]
    · exact holds.listener
    · exact holds.start
    · exact holds.due
  have new : Holds epoch (scheduler.start timer listener msFromNow).timers (agenda.next timer listener msFromNow.toNat) := by
    constructor <;> simp only [start, set, Agenda.next, Function.update_self]
    · exact queues.now
    · rw [sum, queues.now, Nat.add_assoc]
  have remaining : (scheduler.unlink timer).scheduled = (queue.filter (·.timer ≠ timer)).map (·.timer) := by
    rw [unlink, queues.timers]
    exact List.filter_map
  have scheduled := insertScheduled_eq new (fun s member => (others s member).2.2)
  rw [← remaining] at scheduled
  have perm : (insertScheduled (scheduler.start timer listener msFromNow).timers timer
      (scheduler.unlink timer).scheduled).Perm (timer :: (scheduler.unlink timer).scheduled) := by
    rw [remaining] at scheduled ⊢
    refine (List.Perm.of_eq scheduled).trans ?_
    exact (List.perm_orderedInsert _ _ _).map _
  refine ⟨⟨?_, ?_⟩, sound.schedule timer listener _, insert (agenda.next timer listener msFromNow.toNat)
    (queue.filter (·.timer ≠ timer)), queues.now, scheduled, ?_, ?_, ?_⟩
  · intro other
    have once := linked.relink timer other
    change (insertScheduled (scheduler.start timer listener msFromNow).timers timer
      (scheduler.unlink timer).scheduled ++ _).count other = 1
    rw [List.count_append, perm.count_eq, ← List.singleton_append, List.count_append, List.count_append]
    change _ + ((scheduler.unlink timer).frozen.count other + (scheduler.unlink timer).nursery.count other) = 1
    omega
  · intro other
    change other ∈ insertScheduled (scheduler.start timer listener msFromNow).timers timer
      (scheduler.unlink timer).scheduled ↔ _
    rw [perm.mem_iff, List.mem_cons]
    by_cases same : other = timer
    · simp [same, TimerScheduler.schedule, set]
    · simp [same, TimerScheduler.schedule, set, unlink, linked.listening other]
  · intro s member
    rcases List.mem_cons.mp ((List.perm_orderedInsert _ _ _).mem_iff.mp member) with rfl | old
    · exact new
    · exact (others s old).2.2
  · apply insert_sorted (queues.sorted.filter _)
    intro s member
    exact sound.id_lt (sound.made_of_pending (others s member).1)
  · refine (List.perm_orderedInsert _ _ _).trans ?_
    exact ((queues.pending.filter _).cons _).trans (List.perm_append_singleton _ _).symm

/-! ## The head of the queue -/

/-- Nothing is due, or the head of the queue fires: nothing is due before it. -/
theorem Represents.fireNext {epoch : Nat} {scheduler : TimerScheduler maxTimers Listener}
    {agenda : Agenda (Fin maxTimers) Listener} (represents : scheduler.Represents epoch agenda) :
    (scheduler.fireNext scheduler.now = .ok (scheduler, none) ∧ ∀ s ∈ agenda.pending, agenda.now < s.due) ∨
      ∃ s elapsed, s ∈ agenda.pending ∧ s.due ≤ agenda.now ∧ (∀ s' ∈ agenda.pending, s.due ≤ s'.due) ∧
        scheduler.fireNext scheduler.now =
          .ok (scheduler.unschedule s.timer, some (s.timer, s.listener, elapsed)) ∧
        elapsed.toNat = agenda.now - s.start ∧
        (scheduler.unschedule s.timer).Represents epoch (agenda.fire s.timer s.listener elapsed.toNat) := by
  have copy := represents
  obtain ⟨linked, sound, queue, queues⟩ := represents
  unfold TimerScheduler.fireNext
  cases queue with
  | nil =>
      have nothing : agenda.pending = [] := queues.pending.nil_eq.symm
      rw [queues.timers, nothing]
      exact .inl ⟨rfl, by simp⟩
  | cons s queue =>
      have pending : s ∈ agenda.pending := queues.pending.mem_iff.mp List.mem_cons_self
      have first : ∀ s' ∈ agenda.pending, s.due ≤ s'.due := by
        intro s' member
        rcases List.mem_cons.mp (queues.pending.mem_iff.mpr member) with rfl | later
        · exact Nat.le_refl _
        · rcases (List.pairwise_cons.mp queues.sorted).1 s' later with less | ⟨same, -⟩
          · exact Nat.le_of_lt less
          · exact Nat.le_of_eq same
      have holds := queues.holds s List.mem_cons_self
      have scheduled : scheduler.scheduled = s.timer :: queue.map (·.timer) := queues.timers
      rw [scheduled]
      simp only
      by_cases later : scheduler.now < (scheduler.timers s.timer).fireTime
      · rw [if_pos later]
        refine .inl ⟨rfl, fun s' member => Nat.lt_of_lt_of_le ?_ (first s' member)⟩
        rw [queues.now, holds.due]
        exact Nat.add_lt_add_left (UInt32.lt_iff_toNat_lt.mp later) epoch
      · have notLater : (scheduler.timers s.timer).fireTime.toNat ≤ scheduler.now.toNat :=
          UInt32.le_iff_toNat_le.mp (UInt32.not_lt.mp later)
        have started : (scheduler.timers s.timer).startTime.toNat ≤ (scheduler.timers s.timer).fireTime.toNat := by
          have le := sound.start_le s (sound.made_of_pending pending)
          rw [holds.start, holds.due] at le
          exact Nat.le_of_add_le_add_left le
        have le : (scheduler.timers s.timer).startTime ≤ scheduler.now :=
          UInt32.le_iff_toNat_le.mpr (Nat.le_trans started notLater)
        refine .inr ⟨s, scheduler.now - (scheduler.timers s.timer).startTime, pending, ?_, first, ?_, ?_, ?_⟩
        · rw [queues.now, holds.due]
          exact Nat.add_le_add_left notLater epoch
        · rw [if_neg later, holds.listener]
          simp only
          rw [assert_of le]
          rfl
        · rw [UInt32.toNat_sub_of_le _ _ le, queues.now, holds.start]
          omega
        · exact copy.unschedule (scheduled ▸ List.mem_cons_self) (sound.fire pending s.listener _) rfl rfl

end TimerScheduler

end GoldenGate
