import GoldenGate.Common.Result
import Mathlib.Data.List.Infix
import Mathlib.Data.List.Perm.Basic
import Mathlib.Data.List.Range

/-! # The data sink proxy of a loop

The embedding of the proxy of `gg_loop.c`, by which other threads put data to a sink that belongs to
the thread of a loop, and of the messages of `gg_loop_base.c`. A section under the mutex is one step;
what the loop makes of a message and what the sink makes of data are inputs. The items of a proxy are
named by their places in the array that they are allocated in.
-/

namespace GoldenGate

/-- `GG_LoopDataSinkProxyQueueItem` with its data and metadata, and the number of the call that put
    them there. -/
structure ProxyItem (β : Type) where
  index : Nat
  put : Nat
  data : β
  deriving Repr, DecidableEq

/-- `GG_LoopDataSinkProxy`. -/
structure LoopDataSinkProxy (β : Type) where
  queue : List (ProxyItem β)
  queueItemPool : List Nat
  queueHasWaiter : Bool
  hasListener : Bool
  deriving Repr, DecidableEq

/-- The messages of a loop: those of the proxy, and all others. -/
inductive LoopMessage where
  | proxy
  | other
  deriving Repr, DecidableEq

/-- What `GG_Loop_PostMessage` does: the message is queued; or it is not, with `GG_ERROR_TIMEOUT` when
    the loop has no free message item; or it is queued, and the loop could not be woken up. -/
inductive PostResult where
  | posted
  | failed (error : Error)
  | notWoken (error : Error)
  deriving Repr, DecidableEq

def PostResult.result : PostResult → Except Error Unit
  | .posted => .ok ()
  | .failed error => .error error
  | .notWoken error => .error error

def PostResult.isQueued : PostResult → Bool
  | .posted => true
  | .failed _ => false
  | .notWoken _ => true

/-- What `GG_LoopDataSinkProxy_PutData` makes of the result: the data is already in the queue when the
    message cannot be posted in time. -/
def PostResult.told (self : PostResult) : Except Error Unit :=
  match self.result with
  | .error .timeout => .ok ()
  | result => result

namespace LoopDataSinkProxy

variable {β : Type}

def maxQueueLength : Nat := 64

/-- `GG_Loop_CreateDataSinkProxy`. -/
def create (queueSize : Nat) : Except Error (LoopDataSinkProxy β) :=
  if queueSize = 0 ∨ queueSize > maxQueueLength then .error .invalidParameters
  else .ok ⟨[], List.range queueSize, false, false⟩

/-- `GG_LoopDataSinkProxy_PutData`, where there may be no memory to clone the data. Whether a message
    is queued for the loop, and the result. -/
def putData (self : LoopDataSinkProxy β) (put : Nat) (data : β) (cloned : Bool) (post : PostResult) :
    LoopDataSinkProxy β × Bool × Except Error Unit :=
  match self.queueItemPool with
  | [] => ({ self with queueHasWaiter := true }, false, .error .wouldBlock)
  | index :: pool =>
      match cloned with
      | false => (self, false, .error .outOfMemory)
      | true =>
          let queueWasEmpty := self.queue.isEmpty
          let self := { self with
            queue := self.queue ++ [⟨index, put, data⟩], queueItemPool := pool, queueHasWaiter := false }
          if queueWasEmpty then (self, post.isQueued, post.told) else (self, false, .ok ())

/-- What became of a queue: the items that the sink took, those that are left, and its last answer if
    it was asked. -/
structure Forwarded (β : Type) where
  taken : List (ProxyItem β)
  left : List (ProxyItem β)
  answer : Option (Except Error Unit)

/-- The loop of `GG_LoopDataSinkProxy_TryToPutData`, with the answers of the sink. -/
def forward (sink : Nat → Except Error Unit) : List (ProxyItem β) → Forwarded β
  | [] => ⟨[], [], none⟩
  | item :: queue =>
      match sink 0 with
      | .error error => ⟨[], item :: queue, some (.error error)⟩
      | .ok () =>
          let rest := forward (fun i => sink (i + 1)) queue
          ⟨item :: rest.taken, rest.left, rest.answer.or (some (.ok ()))⟩

/-- The section of `GG_LoopDataSinkProxy_TryToPutData` under the mutex, and whether the listener is
    called after it. -/
def tryToPutData (self : LoopDataSinkProxy β) (sink : Nat → Except Error Unit) :
    LoopDataSinkProxy β × Bool × Forwarded β :=
  let forwarded := forward sink self.queue
  let self := { self with
    queue := forwarded.left, queueItemPool := self.queueItemPool ++ forwarded.taken.map (·.index) }
  (self, self.queueHasWaiter && !self.queueItemPool.isEmpty, forwarded)

/-- `GG_LoopDataSinkProxy_SetListener`. -/
def setListener (self : LoopDataSinkProxy β) (hasListener : Bool) : LoopDataSinkProxy β :=
  { self with hasListener := hasListener }

end LoopDataSinkProxy

/-! ## Runs -/

/-- A proxy and the loop: the messages that wait, and the one that the loop has taken. Of the calls of
    `GG_LoopDataSinkProxy_TryToPutData` that have left the section, so many will call the listener. The
    other fields tell what has happened. -/
structure ProxyRun (β : Type) where
  proxy : LoopDataSinkProxy β
  messageQueue : List LoopMessage
  handling : Option LoopMessage
  notifying : Nat
  /-- The number of calls to put data. -/
  puts : Nat
  /-- The calls that returned success, by their numbers, and those that did not. -/
  accepted : List (Nat × β)
  refused : List (Nat × β)
  /-- What the sink took. -/
  delivered : List (Nat × β)
  /-- The last answer of the sink. -/
  answer : Option (Except Error Unit)
  /-- The sink would block, and has not called since. -/
  sinkOwes : Bool
  /-- The producer got `GG_ERROR_WOULD_BLOCK` with a listener, which was not called since. -/
  producerWaits : Bool
  deriving Repr, DecidableEq

/-- The producer puts data; another message is posted; the loop takes a message, and handles it; the
    sink calls the proxy; the listener is called; the producer sets its listener. -/
inductive ProxyStep (β : Type) where
  | putData (data : β) (cloned : Bool) (post : PostResult)
  | postOther
  | dequeue
  | handle (sink : Nat → Except Error Unit)
  | onCanPut (sink : Nat → Except Error Unit)
  | notify
  | setListener (hasListener : Bool)

namespace ProxyRun

variable {β : Type}

def start (proxy : LoopDataSinkProxy β) : ProxyRun β where
  proxy := proxy
  messageQueue := []
  handling := none
  notifying := 0
  puts := 0
  accepted := []
  refused := []
  delivered := []
  answer := none
  sinkOwes := false
  producerWaits := false

/-- What is delivered of the items of a queue. -/
def deliveries (items : List (ProxyItem β)) : List (Nat × β) := items.map fun item => (item.put, item.data)

def putData (self : ProxyRun β) (data : β) (cloned : Bool) (post : PostResult) : ProxyRun β :=
  let (proxy, isQueued, result) := self.proxy.putData self.puts data cloned post
  let messageQueue := if isQueued then self.messageQueue ++ [LoopMessage.proxy] else self.messageQueue
  let puts := self.puts + 1
  match result with
  | .ok () =>
      let accepted := self.accepted ++ [(self.puts, data)]
      { self with proxy := proxy, messageQueue := messageQueue, puts := puts, accepted := accepted }
  | .error error =>
      let refused := self.refused ++ [(self.puts, data)]
      let waits := self.producerWaits || (error = Error.wouldBlock && self.proxy.hasListener)
      { self with
        proxy := proxy, messageQueue := messageQueue, puts := puts, refused := refused, producerWaits := waits }

def tryToPutData (self : ProxyRun β) (sink : Nat → Except Error Unit) : ProxyRun β :=
  let (proxy, shouldNotify, forwarded) := self.proxy.tryToPutData sink
  { self with
    proxy := proxy
    notifying := if shouldNotify then self.notifying + 1 else self.notifying
    delivered := self.delivered ++ deliveries forwarded.taken
    answer := forwarded.answer.or self.answer
    sinkOwes := match forwarded.answer with
      | none => self.sinkOwes
      | some answer => match answer with
        | .error .wouldBlock => true
        | _ => false }

/-- `GG_LoopBase_ProcessMessage` takes a message. -/
def dequeue (self : ProxyRun β) : ProxyRun β :=
  match self.handling, self.messageQueue with
  | none, message :: messages => { self with handling := some message, messageQueue := messages }
  | _, _ => self

/-- `GG_LoopDataSinkProxy_AsLoopMessage_Handle`, if the message is the proxy's. -/
def handle (self : ProxyRun β) (sink : Nat → Except Error Unit) : ProxyRun β :=
  match self.handling with
  | none => self
  | some .other => { self with handling := none }
  | some .proxy => { self with handling := none }.tryToPutData sink

/-- `GG_LoopDataSinkProxy_OnCanPut`. -/
def onCanPut (self : ProxyRun β) (sink : Nat → Except Error Unit) : ProxyRun β :=
  { self with sinkOwes := false }.tryToPutData sink

/-- The listener is called at the end of `GG_LoopDataSinkProxy_TryToPutData`, if there is one. -/
def notify (self : ProxyRun β) : ProxyRun β :=
  if self.notifying = 0 then self
  else { self with
    notifying := self.notifying - 1
    producerWaits := if self.proxy.hasListener then false else self.producerWaits }

/-- A producer without a listener does not wait to be called. -/
def setListener (self : ProxyRun β) (hasListener : Bool) : ProxyRun β :=
  { self with
    proxy := self.proxy.setListener hasListener
    producerWaits := self.producerWaits && hasListener }

def step (self : ProxyRun β) : ProxyStep β → ProxyRun β
  | .putData data cloned post => self.putData data cloned post
  | .postOther => { self with messageQueue := self.messageQueue ++ [LoopMessage.other] }
  | .dequeue => self.dequeue
  | .handle sink => self.handle sink
  | .onCanPut sink => self.onCanPut sink
  | .notify => self.notify
  | .setListener hasListener => self.setListener hasListener

def run (self : ProxyRun β) (steps : List (ProxyStep β)) : ProxyRun β := steps.foldl step self

end ProxyRun

/-! ## What one call does -/

namespace LoopDataSinkProxy

variable {β : Type}

/-- The sink takes the items in the order of the queue. -/
theorem forward_split (sink : Nat → Except Error Unit) (queue : List (ProxyItem β)) :
    (forward sink queue).taken ++ (forward sink queue).left = queue := by
  induction queue generalizing sink with
  | nil => rfl
  | cons item queue ih =>
      unfold forward
      split
      · rfl
      · exact congrArg (item :: ·) (ih _)

/-- Items are left only when the sink failed, with its last answer. -/
theorem forward_left {sink : Nat → Except Error Unit} {queue : List (ProxyItem β)} (left : (forward sink queue).left ≠ []) :
    ∃ i error, sink i = .error error ∧ (forward sink queue).answer = some (.error error) := by
  induction queue generalizing sink with
  | nil => exact absurd rfl left
  | cons item queue ih =>
      unfold forward at left ⊢
      split at left
      · rename_i error answers
        exact ⟨0, error, answers, rfl⟩
      · obtain ⟨i, error, fails, last⟩ := ih left
        refine ⟨i + 1, error, fails, ?_⟩
        simp only [last]
        rfl

/-- The data is not queued, and the producer is told to wait or that there is no memory; or it is
    queued, and a message is posted if the queue was empty. -/
theorem putData_cases (self : LoopDataSinkProxy β) (put : Nat) (data : β) (cloned : Bool) (post : PostResult) :
    (self.queueItemPool = [] ∧
      self.putData put data cloned post = ({ self with queueHasWaiter := true }, false, .error .wouldBlock)) ∨
    (self.queueItemPool ≠ [] ∧ self.putData put data cloned post = (self, false, .error .outOfMemory)) ∨
    ∃ index pool, self.queueItemPool = index :: pool ∧
      self.putData put data cloned post =
        ({ self with
            queue := self.queue ++ [⟨index, put, data⟩], queueItemPool := pool, queueHasWaiter := false },
          self.queue.isEmpty && post.isQueued, if self.queue.isEmpty then post.told else .ok ()) := by
  unfold putData
  split
  · rename_i isEmpty
    exact .inl ⟨isEmpty, rfl⟩
  · rename_i index pool isPool
    cases cloned with
    | false => exact .inr (.inl ⟨by simp [isPool], rfl⟩)
    | true =>
        refine .inr (.inr ⟨index, pool, isPool, ?_⟩)
        cases wasEmpty : self.queue.isEmpty with
        | false => rfl
        | true => rfl

end LoopDataSinkProxy

namespace ProxyRun

variable {β : Type}

/-! ## Every item is in the queue or in the pool -/

/-- The items of the queue and those of the pool are all the items. -/
def KeepsItems (queueSize : Nat) (proxy : LoopDataSinkProxy β) : Prop :=
  (proxy.queue.map (·.index) ++ proxy.queueItemPool).Perm (List.range queueSize)

theorem keepsItems_putData {queueSize : Nat} {proxy : LoopDataSinkProxy β} (keeps : KeepsItems queueSize proxy) (put : Nat)
    (data : β) (cloned : Bool) (post : PostResult) : KeepsItems queueSize (proxy.putData put data cloned post).1 := by
  rcases proxy.putData_cases put data cloned post with ⟨-, same⟩ | ⟨-, same⟩ | ⟨index, pool, isPool, same⟩
  · rw [same]
    exact keeps
  · rw [same]
    exact keeps
  · rw [same]
    unfold KeepsItems at keeps ⊢
    rw [isPool] at keeps
    simpa using keeps

theorem keepsItems_tryToPutData {queueSize : Nat} {proxy : LoopDataSinkProxy β} (keeps : KeepsItems queueSize proxy)
    (sink : Nat → Except Error Unit) : KeepsItems queueSize (proxy.tryToPutData sink).1 := by
  have split := LoopDataSinkProxy.forward_split sink proxy.queue
  unfold KeepsItems at keeps ⊢
  rw [← split, List.map_append] at keeps
  simp only [LoopDataSinkProxy.tryToPutData]
  generalize LoopDataSinkProxy.forward sink proxy.queue = forwarded at keeps
  refine List.Perm.trans ?_ keeps
  rw [← List.append_assoc]
  refine List.perm_append_comm.trans ?_
  rw [List.append_assoc]

theorem proxy_putData (state : ProxyRun β) (data : β) (cloned : Bool) (post : PostResult) :
    (state.putData data cloned post).proxy = (state.proxy.putData state.puts data cloned post).1 := by
  unfold putData
  simp only
  split <;> rfl

theorem keepsItems_step {queueSize : Nat} {state : ProxyRun β} (keeps : KeepsItems queueSize state.proxy)
    (step : ProxyStep β) : KeepsItems queueSize (state.step step).proxy := by
  cases step with
  | putData data cloned post =>
      rw [ProxyRun.step, proxy_putData]
      exact keepsItems_putData keeps _ data cloned post
  | postOther => exact keeps
  | dequeue =>
      unfold ProxyRun.step dequeue
      simp only
      split <;> exact keeps
  | handle sink =>
      unfold ProxyRun.step handle
      simp only
      split
      · exact keeps
      · exact keeps
      · exact keepsItems_tryToPutData keeps sink
  | onCanPut sink => exact keepsItems_tryToPutData keeps sink
  | notify =>
      unfold ProxyRun.step notify
      simp only
      split <;> exact keeps
  | setListener hasListener => exact keeps

/-! ## What was accepted is delivered -/

/-- The message for the data fits in the queue of the loop, or the loop tells that it does not. -/
def MayPost : ProxyStep β → Prop
  | .putData _ _ post => post.result = .ok () ∨ post.result = .error .timeout
  | _ => True

/-- What was accepted was delivered or is in the queue; each call was accepted or refused. -/
structure Orderly (queueSize : Nat) (state : ProxyRun β) : Prop where
  items : KeepsItems queueSize state.proxy
  accepted : state.accepted = state.delivered ++ deliveries state.proxy.queue
  numbers : (state.accepted.map Prod.fst ++ state.refused.map Prod.fst).Perm (List.range state.puts)

theorem told_of_mayPost {post : PostResult} (may : post.result = .ok () ∨ post.result = .error .timeout) :
    post.told = .ok () := by
  unfold PostResult.told
  rcases may with posted | isFull
  · rw [posted]
  · rw [isFull]

/-- One more call is accepted. -/
theorem numbers_accepted {accepted refused : List Nat} {puts : Nat}
    (numbers : (accepted ++ refused).Perm (List.range puts)) :
    (accepted ++ [puts] ++ refused).Perm (List.range (puts + 1)) := by
  rw [List.range_succ, List.append_assoc]
  refine (List.Perm.append_left accepted List.perm_append_comm).trans ?_
  rw [← List.append_assoc]
  exact numbers.append_right [puts]

theorem numbers_refused {accepted refused : List Nat} {puts : Nat}
    (numbers : (accepted ++ refused).Perm (List.range puts)) :
    (accepted ++ (refused ++ [puts])).Perm (List.range (puts + 1)) := by
  rw [List.range_succ, ← List.append_assoc]
  exact numbers.append_right [puts]

theorem Orderly.putData {queueSize : Nat} {state : ProxyRun β} (orderly : Orderly queueSize state) {data : β}
    {cloned : Bool} {post : PostResult} (may : post.result = .ok () ∨ post.result = .error .timeout) :
    Orderly queueSize (state.putData data cloned post) := by
  obtain ⟨items, accepted, numbers⟩ := orderly
  refine ⟨proxy_putData state data cloned post ▸ keepsItems_putData items _ data cloned post, ?_, ?_⟩ <;>
    rcases state.proxy.putData_cases state.puts data cloned post with ⟨-, same⟩ | ⟨-, same⟩ | ⟨index, pool, -, same⟩ <;>
    unfold ProxyRun.putData <;> simp only [same]
  · exact accepted
  · exact accepted
  · rw [told_of_mayPost may, ite_self]
    simp only [accepted, deliveries, List.map_append, List.append_assoc, List.map_cons, List.map_nil]
  · rw [List.map_append]
    exact numbers_refused numbers
  · rw [List.map_append]
    exact numbers_refused numbers
  · rw [told_of_mayPost may, ite_self]
    simp only [List.map_append]
    exact numbers_accepted numbers

theorem Orderly.tryToPutData {queueSize : Nat} {state : ProxyRun β} (orderly : Orderly queueSize state)
    (sink : Nat → Except Error Unit) : Orderly queueSize (state.tryToPutData sink) := by
  obtain ⟨items, accepted, numbers⟩ := orderly
  refine ⟨keepsItems_tryToPutData items sink, ?_, numbers⟩
  have split := LoopDataSinkProxy.forward_split sink state.proxy.queue
  simp only [ProxyRun.tryToPutData, LoopDataSinkProxy.tryToPutData]
  rw [List.append_assoc, deliveries, deliveries, ← List.map_append, split]
  exact accepted

theorem Orderly.step {queueSize : Nat} {state : ProxyRun β} (orderly : Orderly queueSize state) {step : ProxyStep β}
    (may : MayPost step) : Orderly queueSize (state.step step) := by
  have items := keepsItems_step orderly.items step
  cases step with
  | putData data cloned post => exact orderly.putData may
  | postOther => exact ⟨items, orderly.accepted, orderly.numbers⟩
  | dequeue =>
      unfold ProxyRun.step dequeue
      simp only
      split
      · exact ⟨orderly.items, orderly.accepted, orderly.numbers⟩
      · exact orderly
  | handle sink =>
      unfold ProxyRun.step handle
      simp only
      split
      · exact orderly
      · exact ⟨orderly.items, orderly.accepted, orderly.numbers⟩
      · apply Orderly.tryToPutData
        exact ⟨orderly.items, orderly.accepted, orderly.numbers⟩
  | onCanPut sink =>
      apply Orderly.tryToPutData
      exact ⟨orderly.items, orderly.accepted, orderly.numbers⟩
  | notify =>
      unfold ProxyRun.step notify
      simp only
      split
      · exact orderly
      · exact ⟨orderly.items, orderly.accepted, orderly.numbers⟩
  | setListener hasListener => exact ⟨items, orderly.accepted, orderly.numbers⟩

/-- Each of its steps keeps what holds of a run. -/
theorem run_keeps {holds : ProxyRun β → Prop} {may : ProxyStep β → Prop}
    (keeps : ∀ state step, may step → holds state → holds (state.step step)) {state : ProxyRun β} (first : holds state)
    {steps : List (ProxyStep β)} (mayAll : ∀ step ∈ steps, may step) : holds (state.run steps) := by
  induction steps generalizing state with
  | nil => exact first
  | cons step steps ih =>
      apply ih
      · exact keeps state step (mayAll step List.mem_cons_self) first
      · exact fun other member => mayAll other (List.mem_cons_of_mem _ member)

theorem orderly_start {queueSize : Nat} {proxy : LoopDataSinkProxy β} (created : LoopDataSinkProxy.create queueSize = .ok proxy) :
    Orderly queueSize (start proxy) := by
  unfold LoopDataSinkProxy.create at created
  split at created
  · exact nomatch created
  · rw [← Except.ok.inj created]
    exact ⟨List.Perm.refl _, rfl, List.Perm.refl _⟩

/-- The items are in the queue or in the pool; what was delivered is what was accepted, in its order,
    as far as the sink has got; and what was refused is not delivered. -/
structure DeliversAccepted (queueSize : Nat) (state : ProxyRun β) : Prop where
  items : KeepsItems queueSize state.proxy
  delivered : state.delivered <+: state.accepted
  once : (state.accepted.map Prod.fst).Nodup
  refused : ∀ put ∈ state.refused, put.1 ∉ state.delivered.map Prod.fst

theorem Orderly.deliversAccepted {queueSize : Nat} {state : ProxyRun β} (orderly : Orderly queueSize state) :
    DeliversAccepted queueSize state := by
  obtain ⟨items, accepted, numbers⟩ := orderly
  have distinct : (state.accepted.map Prod.fst ++ state.refused.map Prod.fst).Nodup :=
    numbers.nodup_iff.mpr List.nodup_range
  have delivered : state.delivered <+: state.accepted := ⟨_, accepted.symm⟩
  obtain ⟨once, -, disjoint⟩ := List.nodup_append.mp distinct
  refine ⟨items, delivered, once, ?_⟩
  intro put isRefused isDelivered
  exact disjoint _ ((delivered.map Prod.fst).subset isDelivered) _ (List.mem_map_of_mem isRefused) rfl

end ProxyRun

/-- In every run in which each message fits in the queue of the loop, or is refused because that is
    full, the proxy delivers what it accepted. -/
theorem deliversAccepted_of_run {β : Type} (queueSize : Nat) (proxy : LoopDataSinkProxy β)
    (created : LoopDataSinkProxy.create queueSize = .ok proxy) (steps : List (ProxyStep β))
    (may : ∀ step ∈ steps, ProxyRun.MayPost step) :
    ProxyRun.DeliversAccepted queueSize ((ProxyRun.start proxy).run steps) := by
  apply ProxyRun.Orderly.deliversAccepted
  apply ProxyRun.run_keeps _ (ProxyRun.orderly_start created) may
  intro state step may orderly
  exact orderly.step may

/-- A producer fills the queue, is told to wait and tries again when it is called. -/
def proxySteps : List (ProxyStep Nat) :=
  [.setListener true, .putData 10 true .posted, .putData 11 true .posted, .putData 12 true .posted, .dequeue,
    .handle (fun i => if i = 0 then .ok () else .error .wouldBlock), .notify, .putData 12 true .posted,
    .onCanPut (fun _ => .ok ())]

theorem deliversAccepted_proxySteps :
    ∃ proxy : LoopDataSinkProxy Nat, LoopDataSinkProxy.create 2 = .ok proxy ∧
      ((ProxyRun.start proxy).run proxySteps).delivered = [(0, 10), (1, 11), (3, 12)] ∧
      ProxyRun.DeliversAccepted 2 ((ProxyRun.start proxy).run proxySteps) := by
  refine ⟨_, rfl, by decide, deliversAccepted_of_run 2 _ rfl proxySteps ?_⟩
  intro step member
  simp only [proxySteps, List.mem_cons, List.not_mem_nil, or_false] at member
  rcases member with rfl | rfl | rfl | rfl | rfl | rfl | rfl | rfl | rfl
  all_goals first | exact trivial | exact .inl rfl

/-- The data is queued and the loop cannot be woken up: the producer is told so, and the sink gets the
    data. -/
theorem refused_delivered :
    ∃ proxy : LoopDataSinkProxy Nat, LoopDataSinkProxy.create 1 = .ok proxy ∧
      ∃ steps, ¬ ProxyRun.DeliversAccepted 1 ((ProxyRun.start proxy).run steps) := by
  refine ⟨_, rfl, [.putData 10 true (.notWoken .outOfResources), .dequeue, .handle (fun _ => .ok ())], ?_⟩
  intro delivers
  exact delivers.refused (0, 10) List.mem_cons_self List.mem_cons_self

end GoldenGate
