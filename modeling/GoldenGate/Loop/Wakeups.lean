import Mathlib.Data.List.Basic
import Mathlib.Logic.Function.Basic

/-! # How a loop wakes up

The embedding of `GG_Loop_Run`, `GG_Loop_PostMessage` and the handler of the wakeup socket in `gg_bsd_select_loop.c`. A
thread that posts a message queues it first, and writes to the socket then; the loop empties the socket first, and the
queue then. Between any two of these steps others may do theirs. A message is not forgotten: the loop does not sleep
while there is one, unless the thread that posted it is about to wake it up, or was told that this failed.
-/

namespace GoldenGate.LoopWakeups

/-- Where the thread of the loop is. -/
inductive Place where
  /-- Not in `GG_Loop_Run`. -/
  | stopped
  /-- At the head of the loop of `GG_Loop_Run`. -/
  | top
  /-- In `GG_LoopBase_CheckTimers`. -/
  | timers
  /-- In `select`. -/
  | select
  /-- Behind `select`, with whether there is something to read from the wakeup socket. -/
  | handlers (readable : Bool)
  /-- In `GG_Loop_OnEvent`, in the loop that reads from the socket. -/
  | drain
  /-- In `GG_Loop_OnEvent`, in the loop that processes messages. -/
  | process
  deriving Repr, DecidableEq

/-- `GG_Loop`, with the bytes in the wakeup socket, the message of each thread that has queued one and not written to the
    socket yet, the messages that were posted and handled, and those whose `GG_Loop_PostMessage` has returned an error. -/
structure Loop (ι μ : Type) where
  messageQueue : List μ
  terminationRequested : Bool
  pending : Nat
  sending : ι → Option μ
  place : Place
  posted : List μ
  handled : List μ
  failed : List μ

/-- Why `select` returns besides the wakeup socket. -/
inductive Ready where
  | nothing
  | event
  | error
  deriving Repr, DecidableEq

/-- What `send` does in `GG_Loop_SendWakeup`: it writes a byte, or has no buffers left, which is not taken for an error,
    or fails, as when there is no socket to write to. -/
inductive Sending where
  | writes
  | noBuffers
  | fails
  deriving Repr, DecidableEq

inductive Step (ι μ : Type) where
  /-- A thread has queued a message. -/
  | post (thread : ι) (message : μ)
  /-- It writes to the socket, which has no buffers left only when there is something in it. -/
  | sendWakeup (thread : ι) (sending : Sending)
  /-- A handler of the loop requests its termination. -/
  | requestTermination
  | run
  /-- The thread of the loop goes on. -/
  | loop (ready : Ready)
  deriving Repr, DecidableEq

namespace Loop

variable {ι μ : Type}

/-- A loop that nobody has run yet. -/
def init : Loop ι μ := ⟨[], false, 0, fun _ => none, .stopped, [], [], []⟩

/-- The thread of the loop goes on. Some messages request the termination of the loop. -/
def goOn (terminates : μ → Bool) (self : Loop ι μ) (ready : Ready) : Loop ι μ :=
  match self.place with
  | .stopped => self
  | .top => { self with place := if self.terminationRequested then .stopped else .timers }
  | .timers => { self with place := if self.terminationRequested then .stopped else .select }
  | .select =>
      match ready with
      | .error => { self with place := .stopped }
      | .event => { self with place := .handlers (self.pending ≠ 0) }
      | .nothing => if self.pending ≠ 0 then { self with place := .handlers true } else self
  | .handlers readable => { self with place := if readable then .drain else .top }
  | .drain => if self.pending = 0 then { self with place := .process } else { self with pending := self.pending - 1 }
  | .process =>
      match self.messageQueue with
      | [] => { self with place := .top }
      | message :: messages =>
          { self with
            messageQueue := messages
            handled := self.handled ++ [message]
            terminationRequested := self.terminationRequested || terminates message }

variable [DecidableEq ι]

def step (terminates : μ → Bool) (self : Loop ι μ) : Step ι μ → Loop ι μ
  | .post thread message =>
      match self.sending thread with
      | some _ => self
      | none =>
          { self with
            messageQueue := self.messageQueue ++ [message]
            posted := self.posted ++ [message]
            sending := Function.update self.sending thread (some message) }
  | .sendWakeup thread sending =>
      match self.sending thread with
      | none => self
      | some message =>
          let self := { self with sending := Function.update self.sending thread none }
          match sending with
          | .writes => { self with pending := self.pending + 1 }
          | .noBuffers => if self.pending ≠ 0 then self else { self with pending := self.pending + 1 }
          | .fails => { self with failed := self.failed ++ [message] }
  | .requestTermination => { self with terminationRequested := true }
  | .run => if self.place = .stopped then { self with place := .top, terminationRequested := false } else self
  | .loop ready => self.goOn terminates ready

def run (terminates : μ → Bool) (self : Loop ι μ) (steps : List (Step ι μ)) : Loop ι μ := steps.foldl (step terminates) self

/-! ## Nothing is forgotten -/

/-- Each message that was posted is handled or in the queue. While one is in the queue, the loop is to be woken up, or is
    awake for it, or its thread is about to wake it up, or this has failed and the thread knows it. -/
structure Awake (loop : Loop ι μ) : Prop where
  ordered : loop.posted = loop.handled ++ loop.messageQueue
  wakes : ∀ message ∈ loop.messageQueue, loop.pending ≠ 0 ∨ loop.place = .drain ∨ loop.place = .process ∨
    (∃ thread, loop.sending thread = some message) ∨ message ∈ loop.failed

variable {terminates : μ → Bool} {self : Loop ι μ}

omit [DecidableEq ι] in
/-- Where the loop goes does not matter, if it is not awake for the messages. -/
theorem Awake.goes (awake : Awake self) (notDrain : self.place ≠ .drain) (notProcess : self.place ≠ .process)
    (place : Place) : Awake { self with place := place } := by
  refine ⟨awake.ordered, ?_⟩
  intro message member
  obtain pending | drain | process | known := awake.wakes message member
  · exact .inl pending
  · exact absurd drain notDrain
  · exact absurd process notProcess
  · exact .inr (.inr (.inr known))

omit [DecidableEq ι] in
theorem Awake.goOn (awake : Awake self) (ready : Ready) : Awake (self.goOn terminates ready) := by
  cases is : self.place with
  | stopped =>
      simp only [Loop.goOn, is]
      exact awake
  | top | timers | handlers =>
      simp only [Loop.goOn, is]
      exact awake.goes (by rw [is]; intro no; cases no) (by rw [is]; intro no; cases no) _
  | select =>
      have goes := awake.goes (by rw [is]; intro no; cases no) (by rw [is]; intro no; cases no)
      cases ready with
      | error | event =>
          simp only [Loop.goOn, is]
          exact goes _
      | nothing =>
          simp only [Loop.goOn, is]
          split
          next => exact goes _
          next => exact awake
  | drain =>
      simp only [Loop.goOn, is]
      split
      next => exact ⟨awake.ordered, fun _ _ => .inr (.inr (.inl rfl))⟩
      next => exact ⟨awake.ordered, fun _ _ => .inr (.inl rfl)⟩
  | process =>
      cases queue : self.messageQueue with
      | nil =>
          simp only [Loop.goOn, is, queue]
          refine ⟨?_, fun _ member => absurd member List.not_mem_nil⟩
          have ordered := awake.ordered
          rwa [queue] at ordered
      | cons message messages =>
          simp only [Loop.goOn, is, queue]
          refine ⟨?_, fun _ _ => .inr (.inr (.inl rfl))⟩
          have ordered := awake.ordered
          rw [queue] at ordered
          exact ordered.trans (List.append_cons ..)

theorem Awake.step (awake : Awake self) (next : Step ι μ) : Awake (self.step terminates next) := by
  cases next with
  | post thread message =>
      cases is : self.sending thread with
      | some other =>
          simp only [Loop.step, is]
          exact awake
      | none =>
          simp only [Loop.step, is]
          constructor
          · change self.posted ++ [message] = self.handled ++ (self.messageQueue ++ [message])
            rw [awake.ordered, List.append_assoc]
          · intro other member
            obtain old | new := List.mem_append.mp member
            · obtain pending | drain | process | ⟨sender, sends⟩ | failed := awake.wakes other old
              · exact .inl pending
              · exact .inr (.inl drain)
              · exact .inr (.inr (.inl process))
              · refine .inr (.inr (.inr (.inl ⟨sender, ?_⟩)))
                have ne : sender ≠ thread := by
                  rintro rfl
                  rw [is] at sends
                  cases sends
                exact (Function.update_of_ne ne ..).trans sends
              · exact .inr (.inr (.inr (.inr failed)))
            · refine .inr (.inr (.inr (.inl ⟨thread, ?_⟩)))
              rw [List.mem_singleton.mp new]
              exact Function.update_self ..
  | sendWakeup thread sending =>
      cases is : self.sending thread with
      | none =>
          simp only [Loop.step, is]
          exact awake
      | some message =>
          simp only [Loop.step, is]
          cases sending with
          | writes => exact ⟨awake.ordered, fun _ _ => .inl (Nat.succ_ne_zero _)⟩
          | noBuffers =>
              dsimp only
              split
              next pending => exact ⟨awake.ordered, fun _ _ => .inl pending⟩
              next => exact ⟨awake.ordered, fun _ _ => .inl (Nat.succ_ne_zero _)⟩
          | fails =>
              refine ⟨awake.ordered, ?_⟩
              intro other member
              obtain pending | drain | process | ⟨sender, sends⟩ | failed := awake.wakes other member
              · exact .inl pending
              · exact .inr (.inl drain)
              · exact .inr (.inr (.inl process))
              · by_cases own : sender = thread
                · rw [own, is] at sends
                  cases sends
                  exact .inr (.inr (.inr (.inr (List.mem_append_right _ List.mem_cons_self))))
                · exact .inr (.inr (.inr (.inl ⟨sender, (Function.update_of_ne own ..).trans sends⟩)))
              · exact .inr (.inr (.inr (.inr (List.mem_append_left _ failed))))
  | requestTermination => exact ⟨awake.ordered, awake.wakes⟩
  | run =>
      simp only [Loop.step]
      split
      next is =>
        have goes := awake.goes (by rw [is]; intro no; cases no) (by rw [is]; intro no; cases no) .top
        exact ⟨goes.ordered, goes.wakes⟩
      next => exact awake
  | loop ready => exact awake.goOn ready

theorem awake_run (terminates : μ → Bool) (steps : List (Step ι μ)) : Awake (run terminates (init : Loop ι μ) steps) := by
  suffices all : ∀ self : Loop ι μ, Awake self → Awake (run terminates self steps) from
    all _ ⟨rfl, fun _ member => absurd member List.not_mem_nil⟩
  induction steps with
  | nil => exact fun _ awake => awake
  | cons first steps ih => exact fun self awake => ih _ (awake.step first)

/-! ## The loop alone -/

omit [DecidableEq ι]

/-- The thread of the loop goes on for some steps, and nobody else does. -/
def alone (terminates : μ → Bool) : Nat → Loop ι μ → Loop ι μ
  | 0, self => self
  | n + 1, self => alone terminates n (self.goOn terminates .nothing)

/-- The loop has not been stopped on the way to its messages. -/
def OnTheWay (self : Loop ι μ) : Prop :=
  self.place = .process ∨ self.place = .drain ∨
    (self.place ≠ .stopped ∧ self.terminationRequested = false ∧ self.pending ≠ 0)

/-- A bound on the steps to the last message. -/
def toGo (self : Loop ι μ) : Nat :=
  match self.place with
  | .process => self.messageQueue.length
  | .drain => self.messageQueue.length + self.pending + 1
  | .handlers true => self.messageQueue.length + self.pending + 2
  | .select => self.messageQueue.length + self.pending + 3
  | .timers => self.messageQueue.length + self.pending + 4
  | .top => self.messageQueue.length + self.pending + 5
  | .handlers false => self.messageQueue.length + self.pending + 6
  | .stopped => 0

variable (terminates) in
theorem goOn_onTheWay (way : self.OnTheWay) (some_ : self.messageQueue ≠ []) :
    (self.goOn terminates .nothing).OnTheWay ∧ (self.goOn terminates .nothing).toGo < self.toGo := by
  have still (place : Place) (ne : place ≠ .stopped) (running : self.terminationRequested = false)
      (pending : self.pending ≠ 0) : OnTheWay { self with place := place } := .inr (.inr ⟨ne, running, pending⟩)
  have running (notDrain : self.place ≠ .drain) (notProcess : self.place ≠ .process) :
      self.terminationRequested = false ∧ self.pending ≠ 0 := by
    obtain process | drain | ⟨-, running, pending⟩ := way
    · exact absurd process notProcess
    · exact absurd drain notDrain
    · exact ⟨running, pending⟩
  cases is : self.place with
  | stopped =>
      obtain process | drain | ⟨ne, -, -⟩ := way
      · rw [is] at process
        cases process
      · rw [is] at drain
        cases drain
      · exact absurd is ne
  | top | timers =>
      obtain ⟨running, pending⟩ := running (by rw [is]; intro no; cases no) (by rw [is]; intro no; cases no)
      simp only [goOn, toGo, is, running, Bool.false_eq_true, if_false]
      refine ⟨.inr (.inr ⟨?_, rfl, pending⟩), by omega⟩
      intro no
      cases no
  | select =>
      obtain ⟨running, pending⟩ := running (by rw [is]; intro no; cases no) (by rw [is]; intro no; cases no)
      simp only [goOn, toGo, is, if_pos pending]
      refine ⟨still _ ?_ running pending, by omega⟩
      intro no
      cases no
  | handlers readable =>
      obtain ⟨running, pending⟩ := running (by rw [is]; intro no; cases no) (by rw [is]; intro no; cases no)
      cases readable with
      | true =>
          simp only [goOn, toGo, is, if_true]
          exact ⟨.inr (.inl rfl), by omega⟩
      | false =>
          simp only [goOn, toGo, is, Bool.false_eq_true, if_false]
          refine ⟨still _ ?_ running pending, by omega⟩
          intro no
          cases no
  | drain =>
      simp only [goOn, toGo, is]
      split
      next => exact ⟨.inl rfl, by dsimp only; omega⟩
      next => exact ⟨.inr (.inl rfl), by dsimp only; omega⟩
  | process =>
      cases queue : self.messageQueue with
      | nil => exact absurd queue some_
      | cons message messages =>
          simp only [goOn, toGo, is, queue]
          exact ⟨.inl rfl, Nat.lt_succ_self _⟩

theorem goOn_empty (empty : self.messageQueue = []) (ready : Ready) : (self.goOn terminates ready).messageQueue = [] := by
  cases is : self.place with
  | select =>
      cases ready with
      | error | event =>
          simp only [goOn, is]
          exact empty
      | nothing =>
          simp only [goOn, is]
          split <;> exact empty
  | process => simp only [goOn, is, empty]
  | drain =>
      simp only [goOn, is]
      split <;> exact empty
  | stopped | top | timers | handlers =>
      simp only [goOn, is]
      exact empty

theorem alone_of_empty (n : Nat) (empty : self.messageQueue = []) : (alone terminates n self).messageQueue = [] := by
  induction n generalizing self with
  | zero => exact empty
  | succ n ih => exact ih (goOn_empty empty .nothing)

theorem alone_empty (n : Nat) (way : self.OnTheWay) (enough : self.toGo ≤ n) :
    (alone terminates n self).messageQueue = [] := by
  induction n generalizing self with
  | zero =>
      by_contra some_
      have less := (goOn_onTheWay terminates way some_).2
      omega
  | succ n ih =>
      by_cases empty : self.messageQueue = []
      · exact alone_of_empty _ empty
      · obtain ⟨way, less⟩ := goOn_onTheWay terminates way empty
        exact ih way (by omega)

theorem goOn_posted (ready : Ready) : (self.goOn terminates ready).posted = self.posted := by
  cases is : self.place with
  | select =>
      cases ready with
      | error | event => simp only [goOn, is]
      | nothing =>
          simp only [goOn, is]
          split <;> rfl
  | process => cases queue : self.messageQueue <;> simp only [goOn, is, queue]
  | drain =>
      simp only [goOn, is]
      split <;> rfl
  | stopped | top | timers | handlers => simp only [goOn, is]

theorem alone_posted (n : Nat) : (alone terminates n self).posted = self.posted := by
  induction n generalizing self with
  | zero => rfl
  | succ n ih => exact ih.trans (goOn_posted .nothing)

variable (terminates) in
theorem Awake.alone (awake : Awake self) (n : Nat) : Awake (alone terminates n self) := by
  induction n generalizing self with
  | zero => exact awake
  | succ n ih => exact ih (awake.goOn .nothing)

theorem toGo_le (self : Loop ι μ) : self.toGo ≤ self.messageQueue.length + self.pending + 6 := by
  unfold toGo
  split <;> omega

variable [DecidableEq ι]

/-- Whatever the threads do, each message that was posted is handled, in the order of the posts, or is in the queue. While
    a message is in the queue, there is something in the wakeup socket, or the loop is awake for the queue, or the thread
    that has posted the message is about to write to the socket, or its post has returned an error. So if nobody is about to
    write, and the loop runs and was not told to stop, then the steps of its own thread are enough to handle all the
    messages, unless the posts of all of them have returned an error. -/
theorem run_wakes (terminates : μ → Bool) (steps : List (Step ι μ)) :
    let state := run terminates (init : Loop ι μ) steps
    state.posted = state.handled ++ state.messageQueue ∧
    (∀ message ∈ state.messageQueue, state.pending ≠ 0 ∨ state.place = .drain ∨ state.place = .process ∨
      (∃ thread, state.sending thread = some message) ∨ message ∈ state.failed) ∧
    ((∀ thread, state.sending thread = none) → state.place ≠ .stopped → state.terminationRequested = false →
      state.messageQueue = [] ∨ (∃ message ∈ state.messageQueue, message ∉ state.failed) →
      ∀ n ≥ state.messageQueue.length + state.pending + 6,
        (alone terminates n state).messageQueue = [] ∧ (alone terminates n state).handled = state.posted) := by
  intro state
  have awake := awake_run terminates steps
  refine ⟨awake.ordered, awake.wakes, ?_⟩
  intro nobody runs goesOn woken n enough
  have empty : (alone terminates n state).messageQueue = [] := by
    obtain none_ | ⟨message, member, notFailed⟩ := woken
    · exact alone_of_empty n none_
    · apply alone_empty n _ (Nat.le_trans (toGo_le state) enough)
      obtain pending | drain | process | ⟨thread, sends⟩ | failed := awake.wakes message member
      · exact .inr (.inr ⟨runs, goesOn, pending⟩)
      · exact .inr (.inl drain)
      · exact .inl process
      · rw [nobody thread] at sends
        cases sends
      · exact absurd failed notFailed
  refine ⟨empty, ?_⟩
  have ordered := (awake.alone terminates n).ordered
  rw [empty, List.append_nil, alone_posted] at ordered
  exact ordered.symm

end Loop

end GoldenGate.LoopWakeups
