import GoldenGate.Loop.DataSinkProxy

/-! # The proxy is not stuck

Data that waits in a proxy is put to the sink when the loop handles the message that was posted for it,
or when the sink calls after it would have blocked. A producer that was told to wait is called when an
item is free again.
-/

namespace GoldenGate

namespace ProxyRun

variable {β : Type}

/-- While there is data in the queue, a message of the proxy waits for the loop or is being handled, or
    the sink would block and is to call. A producer that waits is called when there is an item for it. -/
structure NeverStuck (state : ProxyRun β) : Prop where
  wakes : state.proxy.queue ≠ [] → .proxy ∈ state.messageQueue ∨ state.handling = some .proxy ∨
    (state.answer = some (.error .wouldBlock) ∧ state.sinkOwes = true)
  calls : state.producerWaits = true → state.proxy.queueItemPool ≠ [] →
    0 < state.notifying ∧ state.proxy.hasListener = true

/-- The loop has space for each message, and the sink has no other reason to refuse data than that it
    would block. -/
def MayWake : ProxyStep β → Prop
  | .putData _ _ post => post.isQueued = true ∧ post.result ≠ .error .wouldBlock
  | .handle sink => ∀ i, sink i = .ok () ∨ sink i = .error .wouldBlock
  | .onCanPut sink => ∀ i, sink i = .ok () ∨ sink i = .error .wouldBlock
  | _ => True

/-- A producer that waits has a listener; it is called by a thread that is about to, or by the next one
    that frees an item. -/
structure Awake (state : ProxyRun β) : Prop where
  wakes : state.proxy.queue ≠ [] → .proxy ∈ state.messageQueue ∨ state.handling = some .proxy ∨
    (state.answer = some (.error .wouldBlock) ∧ state.sinkOwes = true)
  calls : state.producerWaits = true → state.proxy.hasListener = true ∧
    (0 < state.notifying ∨ state.proxy.queueItemPool = [] ∧ state.proxy.queueHasWaiter = true)

theorem Awake.neverStuck {state : ProxyRun β} (awake : Awake state) : NeverStuck state := by
  refine ⟨awake.wakes, ?_⟩
  intro waits free
  obtain ⟨hasListener, calls⟩ := awake.calls waits
  rcases calls with calls | ⟨none, -⟩
  · exact ⟨calls, hasListener⟩
  · exact absurd none free

theorem told_wouldBlock {post : PostResult} (may : post.result ≠ .error .wouldBlock) : post.told ≠ .error .wouldBlock := by
  unfold PostResult.told
  split
  · exact fun same => nomatch same
  · exact may

theorem Awake.putData {state : ProxyRun β} (awake : Awake state) {data : β} {cloned : Bool} {post : PostResult}
    (isQueued : post.isQueued = true) (may : post.result ≠ .error .wouldBlock) : Awake (state.putData data cloned post) := by
  obtain ⟨wakes, calls⟩ := awake
  unfold ProxyRun.putData
  rcases state.proxy.putData_cases state.puts data cloned post with ⟨none, same⟩ | ⟨-, same⟩ | ⟨index, pool, isPool, same⟩ <;>
    simp only [same]
  · refine ⟨wakes, ?_⟩
    intro waits
    simp only [Bool.or_eq_true, Bool.and_eq_true, decide_true, true_and] at waits
    refine ⟨?_, .inr ⟨none, rfl⟩⟩
    rcases waits with waited | hasListener
    · exact (calls waited).1
    · exact hasListener
  · refine ⟨wakes, ?_⟩
    intro waits
    exact calls (by simpa using waits)
  · have notifying : state.producerWaits = true → state.proxy.hasListener = true ∧ 0 < state.notifying := by
      intro waits
      obtain ⟨hasListener, calls⟩ := calls waits
      refine ⟨hasListener, calls.resolve_right ?_⟩
      rintro ⟨none, -⟩
      rw [isPool] at none
      exact nomatch none
    have queued : .proxy ∈ (if (state.proxy.queue.isEmpty && post.isQueued) = true
          then state.messageQueue ++ [LoopMessage.proxy] else state.messageQueue) ∨ state.handling = some .proxy ∨
        (state.answer = some (.error .wouldBlock) ∧ state.sinkOwes = true) := by
      cases isEmpty : state.proxy.queue.isEmpty with
      | true =>
          rw [isQueued]
          exact .inl (List.mem_append_right _ List.mem_cons_self)
      | false => exact wakes (by simpa using isEmpty)
    split
    · refine ⟨fun _ => queued, ?_⟩
      intro waits
      exact ⟨(notifying waits).1, .inl (notifying waits).2⟩
    · rename_i error fails
      have notBlock : error ≠ .wouldBlock := by
        rintro rfl
        split at fails
        · exact told_wouldBlock may fails
        · exact nomatch fails
      refine ⟨fun _ => queued, ?_⟩
      intro waits
      have waited : state.producerWaits = true := by simpa [notBlock] using waits
      exact ⟨(notifying waited).1, .inl (notifying waited).2⟩

theorem Awake.tryToPutData {state : ProxyRun β}
    (calls : state.producerWaits = true → state.proxy.hasListener = true ∧
      (0 < state.notifying ∨ state.proxy.queueItemPool = [] ∧ state.proxy.queueHasWaiter = true))
    {sink : Nat → Except Error Unit} (may : ∀ i, sink i = .ok () ∨ sink i = .error .wouldBlock) :
    Awake (state.tryToPutData sink) := by
  refine ⟨?_, ?_⟩
  · intro left
    obtain ⟨i, error, fails, answers⟩ := LoopDataSinkProxy.forward_left left
    obtain rfl : error = .wouldBlock := by
      rcases may i with succeeds | blocks
      · rw [succeeds] at fails
        exact nomatch fails
      · rw [blocks] at fails
        exact (Except.error.inj fails).symm
    refine .inr (.inr ?_)
    simp only [ProxyRun.tryToPutData, LoopDataSinkProxy.tryToPutData, answers]
    exact ⟨rfl, trivial⟩
  · intro waits
    obtain ⟨hasListener, calls⟩ := calls waits
    refine ⟨hasListener, ?_⟩
    unfold ProxyRun.tryToPutData
    simp only
    cases notifies : (state.proxy.tryToPutData sink).2.1 with
    | true => exact .inl (Nat.succ_pos _)
    | false =>
        rcases calls with calls | ⟨-, hasWaiter⟩
        · exact .inl calls
        · simp only [LoopDataSinkProxy.tryToPutData, hasWaiter, Bool.true_and] at notifies ⊢
          exact .inr ⟨by simpa using notifies, trivial⟩

theorem Awake.step {state : ProxyRun β} (awake : Awake state) {step : ProxyStep β} (may : MayWake step) :
    Awake (state.step step) := by
  cases step with
  | putData data cloned post => exact awake.putData may.1 may.2
  | postOther => exact ⟨fun data => (awake.wakes data).imp_left (List.mem_append_left _), awake.calls⟩
  | dequeue =>
      unfold ProxyRun.step dequeue
      simp only
      split
      · rename_i message messages notHandling isQueue
        refine ⟨?_, awake.calls⟩
        intro data
        rcases awake.wakes data with waits | handled | owes
        · rw [isQueue] at waits
          rcases List.mem_cons.mp waits with first | later
          · exact .inr (.inl (congrArg some first.symm))
          · exact .inl later
        · rw [notHandling] at handled
          exact nomatch handled
        · exact .inr (.inr owes)
      · exact awake
  | handle sink =>
      unfold ProxyRun.step handle
      simp only
      split
      · exact awake
      · rename_i isOther
        refine ⟨?_, awake.calls⟩
        intro data
        rcases awake.wakes data with waits | handled | owes
        · exact .inl waits
        · rw [isOther] at handled
          exact nomatch handled
        · exact .inr (.inr owes)
      · exact @Awake.tryToPutData β { state with handling := none } awake.calls sink may
  | onCanPut sink => exact @Awake.tryToPutData β { state with sinkOwes := false } awake.calls sink may
  | notify =>
      unfold ProxyRun.step notify
      simp only
      split
      · exact awake
      · refine ⟨awake.wakes, ?_⟩
        intro waits
        split at waits
        · exact nomatch waits
        · rename_i noListener
          exact absurd (awake.calls waits).1 noListener
  | setListener hasListener =>
      refine ⟨awake.wakes, ?_⟩
      intro waits
      obtain ⟨waited, hasListener⟩ := (Bool.and_eq_true _ _).mp waits
      exact ⟨hasListener, (awake.calls waited).2⟩

theorem awake_start {queueSize : Nat} {proxy : LoopDataSinkProxy β} (created : LoopDataSinkProxy.create queueSize = .ok proxy) :
    Awake (start proxy) := by
  refine ⟨?_, fun waits => (nomatch waits)⟩
  intro data
  unfold LoopDataSinkProxy.create at created
  split at created
  · exact nomatch created
  · rw [← Except.ok.inj created] at data
    exact absurd rfl data

end ProxyRun

/-- In every run in which the loop has space for each message, and the sink refuses data only because it
    would block, the proxy is not stuck. -/
theorem neverStuck_of_run {β : Type} (queueSize : Nat) (proxy : LoopDataSinkProxy β)
    (created : LoopDataSinkProxy.create queueSize = .ok proxy) (steps : List (ProxyStep β))
    (may : ∀ step ∈ steps, ProxyRun.MayWake step) : ProxyRun.NeverStuck ((ProxyRun.start proxy).run steps) := by
  apply ProxyRun.Awake.neverStuck
  apply ProxyRun.run_keeps _ (ProxyRun.awake_start created) may
  intro state step may awake
  exact awake.step may

/-- The producer is told to wait, and an item is free. -/
def waitingSteps : List (ProxyStep Nat) :=
  [.setListener true, .putData 10 true .posted, .putData 11 true .posted, .putData 12 true .posted, .dequeue,
    .handle (fun i => if i = 0 then .ok () else .error .wouldBlock)]

theorem neverStuck_waitingSteps :
    ∃ proxy : LoopDataSinkProxy Nat, LoopDataSinkProxy.create 2 = .ok proxy ∧
      ((ProxyRun.start proxy).run waitingSteps).proxy.queue ≠ [] ∧
      ((ProxyRun.start proxy).run waitingSteps).producerWaits = true ∧
      ProxyRun.NeverStuck ((ProxyRun.start proxy).run waitingSteps) := by
  refine ⟨_, rfl, by decide, by decide, neverStuck_of_run 2 _ rfl waitingSteps ?_⟩
  intro step member
  simp only [waitingSteps, List.mem_cons, List.not_mem_nil, or_false] at member
  rcases member with rfl | rfl | rfl | rfl | rfl | rfl
  · trivial
  · exact ⟨rfl, nofun⟩
  · exact ⟨rfl, nofun⟩
  · exact ⟨rfl, nofun⟩
  · trivial
  · intro i
    by_cases first : i = 0
    · exact .inl (if_pos first)
    · exact .inr (if_neg first)

/-- The loop has no space for the message; or the sink fails for another reason. No message waits then,
    and the sink is not to call. -/
theorem proxy_stuck :
    ∃ proxy : LoopDataSinkProxy Nat, LoopDataSinkProxy.create 2 = .ok proxy ∧
      ¬ ProxyRun.NeverStuck ((ProxyRun.start proxy).run [.putData 10 true (.failed .timeout)]) ∧
      ¬ ProxyRun.NeverStuck ((ProxyRun.start proxy).run
        [.putData 10 true .posted, .dequeue, .handle (fun _ => .error .outOfMemory)]) := by
  refine ⟨_, rfl, ?_, ?_⟩
  · intro never
    rcases never.wakes nofun with waits | handled | ⟨answers, -⟩
    · exact nomatch waits
    · exact nomatch handled
    · exact nomatch answers
  · intro never
    rcases never.wakes nofun with waits | handled | ⟨answers, -⟩
    · exact nomatch waits
    · exact nomatch handled
    · exact nomatch answers

end GoldenGate
