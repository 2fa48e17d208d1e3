import GoldenGate.Coap.BlockwiseContexts

/-! # The lifetimes of contexts

A call that waits finds the context that it goes on with, as long as nobody ends the request meanwhile:
a call that tells a listener is told when the context is destroyed, but a call that sends the first
sub-request or the next one is not.
-/

namespace GoldenGate.Coap

open Memory

/-! ## The invariant -/

/-- The request whose listener is told, and the monitor of the call, unless the context was destroyed. -/
def ClientCall.monitors : ClientCall → Option (Nat × Nat)
  | .tellingBlock handle monitor false _ | .tellingError handle monitor false => some (handle, monitor)
  | _ => none

/-- The context is destroyed when the listener returns. -/
def ClientCall.finishes (handle : Nat) : ClientCall → Bool
  | .tellingBlock handle' _ destroyed info => !destroyed && !info.more && handle' = handle
  | .tellingError handle' _ destroyed => !destroyed && handle' = handle
  | .sendingFirst _ _ | .sendingNext _ | .sendingLast _ => false

theorem ClientCall.monitors_of_finishes {handle : Nat} {call : ClientCall} (finishes : call.finishes handle = true) :
    ∃ monitor, call.monitors = some (handle, monitor) := by
  cases call with
  | sendingFirst | sendingNext | sendingLast => exact nomatch finishes
  | tellingBlock handle' monitor destroyed info =>
      cases destroyed with
      | true => exact nomatch finishes
      | false =>
          have same : handle' = handle := by
            have both := finishes
            simp only [ClientCall.finishes, Bool.and_eq_true, decide_eq_true_eq] at both
            exact both.2
          exact ⟨monitor, by rw [← same]; rfl⟩
  | tellingError handle' monitor destroyed =>
      cases destroyed with
      | true => exact nomatch finishes
      | false => exact ⟨monitor, by rw [← of_decide_eq_true finishes]; rfl⟩

section Notice

variable (monitor : Option Nat) (call : ClientCall)

theorem ClientCall.expects_notice (handle : Nat) : (call.notice monitor).expects handle = call.expects handle := by
  cases call <;> rfl

theorem ClientCall.notice_eq_sendingNext {handle : Nat} (same : call.notice monitor = .sendingNext handle) :
    call = .sendingNext handle := by
  cases call with
  | sendingNext => exact same
  | sendingFirst | sendingLast | tellingBlock | tellingError => exact nomatch same

/-- A call that was not told still has another monitor. -/
theorem ClientCall.monitors_notice {key : Nat × Nat} (monitors : (call.notice monitor).monitors = some key) :
    call.monitors = some key ∧ some key.2 ≠ monitor := by
  cases call with
  | sendingFirst | sendingNext | sendingLast => exact nomatch monitors
  | tellingBlock handle own destroyed info | tellingError handle own destroyed =>
      cases destroyed with
      | true => exact nomatch monitors
      | false =>
          by_cases same : some own = monitor
          · simp [notice, same, ClientCall.monitors] at monitors
          · simp only [notice, same, Bool.false_or, decide_false, ClientCall.monitors, Option.some.injEq] at monitors
            rw [← monitors]
            exact ⟨rfl, same⟩

theorem ClientCall.finishes_notice {handle : Nat} (finishes : (call.notice monitor).finishes handle = true) :
    call.finishes handle = true := by
  cases call with
  | sendingFirst | sendingNext | sendingLast => exact finishes
  | tellingBlock handle' own destroyed info | tellingError handle' own destroyed =>
      cases destroyed with
      | true => exact nomatch finishes
      | false => grind [notice, ClientCall.finishes]

end Notice

namespace BlockwiseClient

/-- No sub-request of the blockwise request is waiting for its end. -/
def Idle (client : BlockwiseClient) (handle : Nat) : Prop :=
  ∀ (number : Nat) (sub : AcceptedRequest), client.accepted[number]? = some sub → sub.listener = handle → sub.ended = true

/-- No listener of the request is told anything. -/
def Untold (client : BlockwiseClient) (handle : Nat) : Prop :=
  ∀ call ∈ client.calls, ∀ key, call.monitors = some key → key.1 ≠ handle

/-- The calls that wait will find the contexts that they use. -/
structure Safe (client : BlockwiseClient) : Prop where
  fresh : ∀ handle, client.handleBase ≤ handle → client.contexts handle = none
  expected : ∀ handle, client.Expects handle → ∃ context, client.contexts handle = some context
  active : ∀ handle, .sendingNext handle ∈ client.calls → ∀ context, client.contexts handle = some context →
    context.request.block2Active = true
  told : ∀ call ∈ client.calls, ∀ key, call.monitors = some key → client.Idle key.1 ∧
    ∃ context, client.contexts key.1 = some context ∧ context.destroyMonitor = some key.2
  alone : client.calls.Pairwise fun call call' =>
    ∀ key key', call.monitors = some key → call'.monitors = some key' → key.1 ≠ key'.1
  last : ∀ call ∈ client.calls, ∀ handle, call.finishes handle = true → ¬ client.Expects handle
  live : ∀ (number : Nat) (sub : AcceptedRequest), client.accepted[number]? = some sub → sub.ended = false →
    ∃ context, client.contexts sub.listener = some context ∧ context.pendingRequest = some number

/-- The client goes on, or an assertion fails. -/
def Survives (result : Access BlockwiseClient) : Prop :=
  (∃ next, result = .ok next ∧ Safe next) ∨ result = .error .assertion

variable {client : BlockwiseClient} {handle : Nat} {context : BlockwiseContext}

theorem deref_of (isContext : client.contexts handle = some context) : client.deref handle = .ok context := by
  rw [deref, isContext]

theorem contexts_set (handle' : Nat) : (client.set handle context).contexts handle' =
    if handle' = handle then some context else client.contexts handle' := Function.update_apply ..

theorem contexts_set_self : (client.set handle context).contexts handle = some context :=
  (contexts_set handle).trans (if_pos rfl)

/-- A sub-request of the same number, before some other one was concluded. -/
theorem accepted_conclude {concluded : Option Nat} {number : Nat} {sub : AcceptedRequest}
    (isSub : (client.conclude concluded).accepted[number]? = some sub) :
    ∃ before, client.accepted[number]? = some before ∧ sub.listener = before.listener ∧
      (before.ended = true → sub.ended = true) ∧ (concluded = some number → sub.ended = true) := by
  cases concluded with
  | none => exact ⟨sub, isSub, rfl, id, nofun⟩
  | some other =>
      rw [conclude, List.getElem?_modify] at isSub
      obtain ⟨before, isBefore, isSub⟩ := Option.map_eq_some_iff.mp isSub
      refine ⟨before, isBefore, ?_⟩
      rw [← isSub]
      by_cases same : other = number
      · rw [if_pos same]
        exact ⟨rfl, fun _ => rfl, fun _ => rfl⟩
      · rw [if_neg same]
        exact ⟨rfl, id, fun equal => absurd (Option.some.inj equal) same⟩

@[simp] theorem contexts_conclude (concluded : Option Nat) : (client.conclude concluded).contexts = client.contexts := by
  cases concluded <;> rfl

@[simp] theorem calls_conclude (concluded : Option Nat) : (client.conclude concluded).calls = client.calls := by
  cases concluded <;> rfl

@[simp] theorem handleBase_conclude (concluded : Option Nat) :
    (client.conclude concluded).handleBase = client.handleBase := by
  cases concluded <;> rfl

theorem Idle.conclude (idle : client.Idle handle) (concluded : Option Nat) : (client.conclude concluded).Idle handle := by
  intro number sub isSub isListener
  obtain ⟨before, isBefore, listener, stays, -⟩ := accepted_conclude isSub
  exact stays (idle number before isBefore (listener.symm.trans isListener))

theorem not_ended {before after : AcceptedRequest} (stays : before.ended = true → after.ended = true)
    (notEnded : after.ended = false) : before.ended = false := by
  cases ended : before.ended with
  | true =>
      rw [stays ended] at notEnded
      exact nomatch notEnded
  | false => rfl

namespace Safe

theorem pop {call : ClientCall} {calls : List ClientCall} (safe : Safe client) (isTop : client.calls = call :: calls) :
    Safe { client with calls := calls } := by
  have below : ∀ call' ∈ calls, call' ∈ client.calls := fun _ member => isTop ▸ List.mem_cons_of_mem _ member
  have expects : ∀ handle, ({ client with calls := calls } : BlockwiseClient).Expects handle → client.Expects handle :=
    fun _ ⟨call', member, expects⟩ => ⟨call', below call' member, expects⟩
  have alone := safe.alone
  rw [isTop] at alone
  exact ⟨safe.fresh, fun handle expected => safe.expected handle (expects handle expected),
    fun handle member => safe.active handle (below _ member), fun call' member => safe.told call' (below call' member),
    alone.tail, fun call' member handle finishes expected => safe.last call' (below call' member) handle finishes (expects handle expected),
    safe.live⟩

theorem conclude (safe : Safe client) (concluded : Option Nat) : Safe (client.conclude concluded) := by
  have expects (handle : Nat) : (client.conclude concluded).Expects handle ↔ client.Expects handle := by
    rw [Expects, calls_conclude, Expects]
  constructor
  · rw [handleBase_conclude, contexts_conclude]
    exact safe.fresh
  · intro handle expected
    rw [contexts_conclude]
    exact safe.expected handle ((expects handle).mp expected)
  · rw [contexts_conclude, calls_conclude]
    exact safe.active
  · intro call member key monitors
    rw [calls_conclude] at member
    obtain ⟨idle, waits⟩ := safe.told call member key monitors
    rw [contexts_conclude]
    exact ⟨idle.conclude concluded, waits⟩
  · rw [calls_conclude]
    exact safe.alone
  · intro call member handle finishes
    rw [calls_conclude] at member
    rw [expects]
    exact safe.last call member handle finishes
  · intro number sub isSub notEnded
    obtain ⟨before, isBefore, listener, stays, -⟩ := accepted_conclude isSub
    rw [listener, contexts_conclude]
    exact safe.live number before isBefore (not_ended stays notEnded)

/-- A context is changed as far as the waiting calls and the sub-requests allow. -/
theorem set (safe : Safe client) (known : handle < client.handleBase)
    (active : .sendingNext handle ∈ client.calls → context.request.block2Active = true)
    (told : ∀ call ∈ client.calls, ∀ key, call.monitors = some key → key.1 = handle → context.destroyMonitor = some key.2)
    (pending : ∀ number sub, client.accepted[number]? = some sub → sub.ended = false → sub.listener = handle →
      context.pendingRequest = some number) : Safe (client.set handle context) := by
  refine ⟨?_, ?_, ?_, ?_, safe.alone, safe.last, ?_⟩
  · intro handle' fresh
    have other : handle' ≠ handle := by
      have := (show client.handleBase ≤ handle' from fresh)
      omega
    rw [contexts_set, if_neg other]
    exact safe.fresh handle' fresh
  · intro handle' expects
    rw [contexts_set]
    split
    · exact ⟨context, rfl⟩
    · exact safe.expected handle' expects
  · intro handle' member context' isContext
    rw [contexts_set] at isContext
    split at isContext
    · rename_i same
      rw [← Option.some.inj isContext]
      exact active (same ▸ member)
    · exact safe.active handle' member context' isContext
  · intro call member key monitors
    obtain ⟨idle, waits⟩ := safe.told call member key monitors
    refine ⟨idle, ?_⟩
    rw [contexts_set]
    split
    · rename_i same
      exact ⟨context, rfl, told call member key monitors same⟩
    · exact waits
  · intro number sub isSub notEnded
    rw [contexts_set]
    split
    · rename_i same
      exact ⟨context, rfl, pending number sub isSub notEnded same⟩
    · exact safe.live number sub isSub notEnded

/-- A handle that is in use was given. -/
theorem known (safe : Safe client) (isContext : client.contexts handle = some context) : handle < client.handleBase := by
  by_contra fresh
  rw [safe.fresh handle (Nat.le_of_not_lt fresh)] at isContext
  exact nomatch isContext

/-- The request of a context is changed. -/
theorem setRequest (safe : Safe client) (isContext : client.contexts handle = some context) (request : RequestContext)
    (active : .sendingNext handle ∈ client.calls → request.block2Active = true) :
    Safe (client.set handle { context with request := request }) := by
  apply safe.set (safe.known isContext) active
  · intro call member key monitors same
    obtain ⟨-, context', isContext', waits⟩ := safe.told call member key monitors
    rw [same, isContext] at isContext'
    rw [Option.some.inj isContext']
    exact waits
  · intro number sub isSub notEnded same
    obtain ⟨context', isContext', waits⟩ := safe.live number sub isSub notEnded
    rw [same, isContext] at isContext'
    rw [Option.some.inj isContext']
    exact waits

/-- A context that no call expects is taken out, its sub-request is cancelled and its monitor is told. -/
theorem destroy (safe : Safe client) (isContext : client.contexts handle = some context)
    (unexpected : ¬ client.Expects handle) : Survives (client.destroy handle) := by
  unfold BlockwiseClient.destroy
  rw [deref_of isContext, ok_bind]
  dsimp only
  generalize isRemoved : ({ client with contexts := Function.update client.contexts handle none } : BlockwiseClient) = removed
  have contexts (handle' : Nat) : (removed.conclude context.pendingRequest).contexts handle' =
      if handle' = handle then none else client.contexts handle' := by
    rw [contexts_conclude, ← isRemoved]
    exact Function.update_apply ..
  have calls : (removed.conclude context.pendingRequest).calls = client.calls := by rw [calls_conclude, ← isRemoved]
  have accepted (number : Nat) (sub : AcceptedRequest)
      (isSub : (removed.conclude context.pendingRequest).accepted[number]? = some sub) :
      ∃ before, client.accepted[number]? = some before ∧ sub.listener = before.listener ∧
        (before.ended = true → sub.ended = true) ∧ (context.pendingRequest = some number → sub.ended = true) := by
    obtain ⟨before, isBefore, rest⟩ := accepted_conclude isSub
    rw [← isRemoved] at isBefore
    exact ⟨before, isBefore, rest⟩
  rw [calls]
  have expected (handle' : Nat) (isExpected : ∃ call ∈ client.calls.map (·.notice context.destroyMonitor), call.expects handle' = true) :
      client.Expects handle' := by
    obtain ⟨_, member, expects⟩ := isExpected
    obtain ⟨call, before, rfl⟩ := List.mem_map.mp member
    exact ⟨call, before, (call.expects_notice _ handle').symm.trans expects⟩
  refine .inl ⟨_, rfl, ?_, ?_, ?_, ?_, ?_, ?_, ?_⟩
  · intro handle' fresh
    rw [handleBase_conclude, ← isRemoved] at fresh
    rw [contexts, safe.fresh handle' fresh, ite_self]
  · intro handle' isExpected
    have isExpected := expected handle' isExpected
    have other : handle' ≠ handle := fun same => unexpected (same ▸ isExpected)
    rw [contexts, if_neg other]
    exact safe.expected handle' isExpected
  · intro handle' member context' isContext'
    obtain ⟨call, before, isCall⟩ := List.mem_map.mp member
    rw [call.notice_eq_sendingNext _ isCall] at before
    rw [contexts] at isContext'
    split at isContext'
    · exact nomatch isContext'
    · exact safe.active handle' before context' isContext'
  · intro call member key isKey
    obtain ⟨call, before, rfl⟩ := List.mem_map.mp member
    obtain ⟨isKey, notTold⟩ := call.monitors_notice _ isKey
    obtain ⟨idle, context', isContext', waits⟩ := safe.told call before key isKey
    refine ⟨?_, ?_⟩
    · intro number sub isSub isListener
      obtain ⟨old, isOld, listener, stays, -⟩ := accepted number sub isSub
      exact stays (idle number old isOld (listener.symm.trans isListener))
    · -- the monitor of the context was told
      have other : key.1 ≠ handle := by
        intro same
        rw [same, isContext] at isContext'
        rw [Option.some.inj isContext'] at notTold
        exact notTold waits.symm
      rw [contexts, if_neg other]
      exact ⟨context', isContext', waits⟩
  · rw [List.pairwise_map]
    apply safe.alone.imp
    intro call call' apart key key' isKey isKey'
    exact apart key key' (call.monitors_notice _ isKey).1 (call'.monitors_notice _ isKey').1
  · intro call member handle' finishes isExpected
    obtain ⟨call, before, rfl⟩ := List.mem_map.mp member
    exact safe.last call before handle' (call.finishes_notice _ finishes) (expected handle' isExpected)
  · intro number sub isSub notEnded
    obtain ⟨old, isOld, listener, stays, concluded⟩ := accepted number sub isSub
    obtain ⟨context', isContext', waits⟩ := safe.live number old isOld (not_ended stays notEnded)
    rw [contexts, listener]
    split
    · rename_i same
      rw [same, isContext] at isContext'
      rw [concluded (Option.some.inj isContext' ▸ waits)] at notEnded
      exact nomatch notEnded
    · exact ⟨context', isContext', waits⟩

/-- A call begins to wait. -/
theorem push {call : ClientCall} (safe : Safe client)
    (expects : ∀ handle, call.expects handle = true →
      (∃ context, client.contexts handle = some context) ∧ ∀ call' ∈ client.calls, call'.finishes handle = false)
    (sends : ∀ handle, call = .sendingNext handle → ∀ context, client.contexts handle = some context →
      context.request.block2Active = true)
    (monitors : ∀ key, call.monitors = some key → client.Idle key.1 ∧ client.Untold key.1 ∧
      ∃ context, client.contexts key.1 = some context ∧ context.destroyMonitor = some key.2)
    (finishes : ∀ handle, call.finishes handle = true → ¬ client.Expects handle) : Safe (client.push call) := by
  have expected : ∀ handle, (client.push call).Expects handle → call.expects handle = true ∨ client.Expects handle := by
    rintro handle ⟨call', member, expectsCall⟩
    rcases List.mem_cons.mp member with rfl | below
    · exact .inl expectsCall
    · exact .inr ⟨call', below, expectsCall⟩
  refine ⟨safe.fresh, ?_, ?_, ?_, ?_, ?_, safe.live⟩
  · intro handle isExpected
    rcases expected handle isExpected with now | before
    · exact (expects handle now).1
    · exact safe.expected handle before
  · intro handle member
    rcases List.mem_cons.mp member with same | below
    · exact sends handle same.symm
    · exact safe.active handle below
  · intro call' member key isKey
    rcases List.mem_cons.mp member with rfl | below
    · exact ⟨(monitors key isKey).1, (monitors key isKey).2.2⟩
    · exact safe.told call' below key isKey
  · refine List.pairwise_cons.mpr ⟨?_, safe.alone⟩
    intro call' member key key' isKey isKey' same
    exact (monitors key isKey).2.1 call' member key' isKey' same.symm
  · intro call' member handle isLast isExpected
    rcases List.mem_cons.mp member with rfl | below
    · rcases expected handle isExpected with now | before
      · cases call' with
        | sendingFirst | sendingNext | sendingLast => exact nomatch isLast
        | tellingBlock | tellingError => exact nomatch now
      · exact finishes handle isLast before
    · rcases expected handle isExpected with now | before
      · rw [(expects handle now).2 call' below] at isLast
        exact nomatch isLast
      · exact safe.last call' below handle isLast before

/-- The fields about the life of an idle context may be set. -/
theorem setLife (safe : Safe client) (isContext : client.contexts handle = some context) (idle : client.Idle handle)
    (untold : client.Untold handle) (request : RequestContext) (pending monitor : Option Nat)
    (active : .sendingNext handle ∈ client.calls → request.block2Active = true) :
    Safe (client.set handle
      { context with request := request, pendingRequest := pending, destroyMonitor := monitor }) := by
  apply safe.set (safe.known isContext) active
  · exact fun call member key isKey same => absurd same (untold call member key isKey)
  · intro number sub isSub notEnded isListener
    rw [idle number sub isSub isListener] at notEnded
    exact nomatch notEnded

/-- The listener of an idle request is called. -/
theorem tell {call : ClientCall} {monitor : Nat} (safe : Safe client) (isContext : client.contexts handle = some context)
    (idle : client.Idle handle) (untold : client.Untold handle) (monitors : call.monitors = some (handle, monitor))
    (finishes : call.finishes handle = true → ¬ client.Expects handle) :
    Safe ((client.set handle { context with destroyMonitor := some monitor }).push call) := by
  have monitored := safe.setLife isContext idle untold context.request context.pendingRequest (some monitor)
    fun member => safe.active handle member context isContext
  apply monitored.push
  · intro handle' expects
    cases call with
    | sendingFirst | sendingNext | sendingLast => exact nomatch monitors
    | tellingBlock | tellingError => exact nomatch expects
  · intro handle' isSending
    rw [isSending] at monitors
    exact nomatch monitors
  · intro key isKey
    obtain rfl := Option.some.inj (isKey.symm.trans monitors)
    exact ⟨idle, untold, _, contexts_set_self, rfl⟩
  · intro handle' isLast
    obtain ⟨monitor', isKey⟩ := ClientCall.monitors_of_finishes isLast
    obtain ⟨rfl, -⟩ := Prod.mk.inj (Option.some.inj (isKey.symm.trans monitors))
    exact finishes isLast

theorem notifyErrorAndTerminate (safe : Safe client) (isContext : client.contexts handle = some context)
    (idle : client.Idle handle) (untold : client.Untold handle) (unexpected : ¬ client.Expects handle) :
    Survives (client.notifyErrorAndTerminate handle) := by
  unfold BlockwiseClient.notifyErrorAndTerminate
  rw [deref_of isContext, ok_bind]
  split
  · exact .inl ⟨_, rfl, safe.tell isContext idle untold rfl fun _ => unexpected⟩
  · exact safe.destroy isContext unexpected

/-- The endpoint accepts the sub-request that an idle context waits for. -/
theorem accept (safe : Safe client) (isContext : client.contexts handle = some context)
    (isPending : context.pendingRequest = some client.accepted.length) (untold : client.Untold handle) :
    Safe { client with accepted := client.accepted ++ [⟨handle, false⟩] } := by
  have before : ∀ number sub, (client.accepted ++ [⟨handle, false⟩])[number]? = some sub →
      client.accepted[number]? = some sub ∨ number = client.accepted.length ∧ sub = ⟨handle, false⟩ := by
    intro number sub isSub
    rcases Nat.lt_or_ge number client.accepted.length with old | new
    · rw [List.getElem?_append_left old] at isSub
      exact .inl isSub
    · rw [List.getElem?_append_right new] at isSub
      obtain ⟨first, isSub⟩ := List.getElem?_eq_some_iff.mp isSub
      rw [List.getElem_singleton] at isSub
      rw [List.length_singleton] at first
      exact .inr ⟨by omega, isSub.symm⟩
  refine ⟨safe.fresh, safe.expected, safe.active, ?_, safe.alone, safe.last, ?_⟩
  · intro call member key isKey
    obtain ⟨idle, waits⟩ := safe.told call member key isKey
    refine ⟨?_, waits⟩
    intro number sub isSub isListener
    rcases before number sub isSub with old | ⟨-, rfl⟩
    · exact idle number sub old isListener
    · exact absurd isListener.symm (untold call member key isKey)
  · intro number sub isSub notEnded
    rcases before number sub isSub with old | ⟨rfl, rfl⟩
    · exact safe.live number sub old notEnded
    · exact ⟨context, isContext, isPending⟩

/-- The next sub-request of an idle context is sent, or the client is as it was. -/
theorem sendBlockwiseRequest (safe : Safe client) (isContext : client.contexts handle = some context)
    (idle : client.Idle handle) (untold : client.Untold handle) (answer : Except Error Unit) (call : ClientCall)
    (monitors : call.monitors = none) (expects : ∀ handle', call.expects handle' = true → handle' = handle)
    (sends : ∀ handle', call = .sendingNext handle' → context.request.block2Active = true) :
    (∃ result, client.sendBlockwiseRequest handle answer call = .ok (client, some result)) ∨
      ∃ next, client.sendBlockwiseRequest handle answer call = .ok (next, none) ∧ Safe next := by
  unfold BlockwiseClient.sendBlockwiseRequest
  rw [deref_of isContext, ok_bind]
  split
  · exact .inl ⟨_, rfl⟩
  · cases answer with
    | error error => exact .inl ⟨_, rfl⟩
    | ok _ =>
        refine .inr ⟨_, rfl, ?_⟩
        have waiting := safe.setLife isContext idle untold context.request (some client.accepted.length)
          context.destroyMonitor fun member => safe.active handle member context isContext
        have isWaiting : (client.set handle { context with pendingRequest := some client.accepted.length }).contexts handle =
            some { context with pendingRequest := some client.accepted.length } := contexts_set_self
        have accepted := waiting.accept isWaiting rfl untold
        apply accepted.push
        · intro handle' isExpected
          obtain rfl := expects handle' isExpected
          refine ⟨⟨_, isWaiting⟩, ?_⟩
          intro call' member
          cases isLast : call'.finishes handle' with
          | false => rfl
          | true =>
              obtain ⟨monitor, isKey⟩ := ClientCall.monitors_of_finishes isLast
              exact absurd rfl (untold call' member _ isKey)
        · intro handle' isSending context' isContext'
          have same : handle' = handle := expects handle' (by rw [isSending]; exact decide_eq_true rfl)
          rw [same] at isContext'
          rw [← Option.some.inj (isWaiting.symm.trans isContext')]
          exact sends handle' isSending
        · intro key isKey
          rw [monitors] at isKey
          exact nomatch isKey
        · intro handle' isLast
          obtain ⟨monitor, isKey⟩ := ClientCall.monitors_of_finishes isLast
          rw [monitors] at isKey
          exact nomatch isKey

theorem checkDone (safe : Safe client) (isContext : client.contexts handle = some context)
    (unexpected : context.request.block2Active = false → ¬ client.Expects handle) : Survives (client.checkDone handle) := by
  unfold BlockwiseClient.checkDone
  rw [deref_of isContext, ok_bind]
  split
  · rename_i isDone
    simp only [Bool.and_eq_true, Bool.not_eq_true'] at isDone
    exact safe.destroy isContext (unexpected isDone.2)
  · exact .inl ⟨client, rfl, safe⟩

theorem continueBlock2 (safe : Safe client) (isContext : client.contexts handle = some context)
    (idle : client.Idle handle) (untold : client.Untold handle) {info : BlockInfo} (answer : Except Error Unit)
    (unexpected : info.more = false → ¬ client.Expects handle) : Survives (client.continueBlock2 handle info answer) := by
  unfold BlockwiseClient.continueBlock2
  rw [deref_of isContext, ok_bind]
  cases isMore : info.more with
  | true =>
      rw [if_pos rfl]
      dsimp only
      generalize isRequest : ({ context.request with
        block2Active := true, block2Info := ⟨info.offset + info.size, info.size, false⟩ } : RequestContext) = request
      have active : request.block2Active = true := by rw [← isRequest]
      have next := safe.setRequest isContext request (fun _ => active)
      have isNext : (client.set handle { context with request := request }).contexts handle =
          some { context with request := request } := contexts_set_self
      rcases next.sendBlockwiseRequest isNext idle untold answer (.sendingNext handle) rfl
        (fun _ expects => (of_decide_eq_true expects).symm) (fun _ _ => active) with ⟨result, returns⟩ | ⟨sent, waits, safe'⟩
      · rw [returns, ok_bind]
        apply next.checkDone isNext
        intro inactive
        rw [show request.block2Active = false from inactive] at active
        exact nomatch active
      · rw [waits, ok_bind]
        exact .inl ⟨sent, rfl, safe'⟩
  | false =>
      rw [if_neg Bool.false_ne_true]
      have unexpected := unexpected isMore
      have notSending : .sendingNext handle ∉ client.calls :=
        fun member => unexpected ⟨_, member, decide_eq_true rfl⟩
      have done := safe.setRequest isContext { context.request with block2Active := false }
        (fun member => absurd member notSending)
      exact done.checkDone contexts_set_self fun _ => unexpected

/-! ## Steps -/

theorem firstSent (safe : Safe client) {wantsHandle : Bool} {result : Except Error Unit}
    (exists' : wantsHandle = true ∨ result ≠ .ok () → ∃ context, client.contexts handle = some context)
    (unexpected : result ≠ .ok () → ¬ client.Expects handle) : Survives (client.firstSent handle wantsHandle result) := by
  cases result with
  | error error =>
      obtain ⟨context, isContext⟩ := exists' (.inr nofun)
      exact safe.destroy isContext (unexpected nofun)
  | ok _ =>
      unfold BlockwiseClient.firstSent
      cases wantsHandle with
      | true =>
          obtain ⟨context, isContext⟩ := exists' (.inl rfl)
          dsimp only
          rw [if_pos rfl, deref_of isContext, ok_bind]
          exact .inl ⟨client, rfl, safe⟩
      | false => exact .inl ⟨client, rfl, safe⟩

theorem request (safe : Safe client) (method : Method) (options : List MessageOption) (source : Option BlockSource)
    (preferredBlockSize : Nat) (hasListener wantsHandle : Bool) (answer : Except Error Unit) :
    Survives (client.request method options source preferredBlockSize hasListener wantsHandle answer) := by
  unfold BlockwiseClient.request
  by_cases allowed : ¬ (source.isSome ∧ method ≠ .put ∧ method ≠ .post)
  · rw [assert_of allowed, ok_bind]
    dsimp only
    generalize isContext : BlockwiseContext.mk _ _ _ _ = context
    have absent := safe.fresh client.handleBase le_rfl
    have unexpected : ¬ client.Expects client.handleBase := by
      intro expects
      obtain ⟨context', isContext'⟩ := safe.expected _ expects
      rw [absent] at isContext'
      exact nomatch isContext'
    have idle : client.Idle client.handleBase := by
      intro number sub isSub isListener
      cases ended : sub.ended with
      | true => rfl
      | false =>
          obtain ⟨context', isContext', -⟩ := safe.live number sub isSub ended
          rw [isListener, absent] at isContext'
          exact nomatch isContext'
    have untold : client.Untold client.handleBase := by
      intro call member key isKey same
      obtain ⟨-, context', isContext', -⟩ := safe.told call member key isKey
      rw [same, absent] at isContext'
      exact nomatch isContext'
    have given : Safe { client with handleBase := client.handleBase + 1 } :=
      ⟨fun handle fresh => safe.fresh handle (Nat.le_of_succ_le fresh), safe.expected, safe.active, safe.told, safe.alone,
        safe.last, safe.live⟩
    have made := @Safe.set _ client.handleBase context given (Nat.lt_succ_self _)
      (fun member => absurd ⟨_, member, decide_eq_true rfl⟩ unexpected)
      (fun call member key isKey same => absurd same (untold call member key isKey))
      (fun number sub isSub notEnded isListener => by
        rw [idle number sub isSub isListener] at notEnded
        exact nomatch notEnded)
    have isMade : (({ client with handleBase := client.handleBase + 1 } : BlockwiseClient).set client.handleBase
        context).contexts client.handleBase = some context := contexts_set_self
    have expects : ∀ handle, (ClientCall.sendingFirst client.handleBase wantsHandle).expects handle = true →
        handle = client.handleBase := by
      intro handle expects
      simp only [ClientCall.expects, Bool.and_eq_true, decide_eq_true_eq] at expects
      exact expects.2.symm
    rcases made.sendBlockwiseRequest isMade idle untold answer _ rfl expects (fun _ isSending => nomatch isSending)
      with ⟨result, returns⟩ | ⟨next, waits, safe'⟩
    · rw [returns, ok_bind]
      exact made.firstSent (fun _ => ⟨context, isMade⟩) fun _ => unexpected
    · rw [waits, ok_bind]
      exact .inl ⟨next, rfl, safe'⟩
  · refine .inr ?_
    simp [assert, allowed]

theorem setPaused (safe : Safe client) (handle : Nat) (paused : Bool) (answer : Except Error Unit) :
    Survives (client.setPaused handle paused answer) := by
  unfold BlockwiseClient.setPaused
  cases isContext : client.contexts handle with
  | none => exact .inl ⟨client, rfl, safe⟩
  | some context =>
      dsimp only
      split
      · exact .inl ⟨_, rfl, safe.setRequest isContext _ fun member => safe.active handle member context isContext⟩
      · split
        · -- a request that is resumed is still marked as paused
          rename_i isPaused
          unfold BlockwiseClient.sendBlockwiseRequest
          rw [deref_of isContext, ok_bind, if_pos isPaused]
          exact .inl ⟨client, rfl, safe⟩
        · exact .inl ⟨client, rfl, safe⟩

theorem cancel (safe : Safe client) (unexpected : ¬ client.Expects handle) : Survives (client.cancel handle) := by
  unfold BlockwiseClient.cancel
  cases isContext : client.contexts handle with
  | none => exact .inl ⟨client, rfl, safe⟩
  | some context => exact safe.destroy isContext unexpected

/-- A sub-request ends that has not ended before: its context is idle then, and its listener is told nothing. -/
theorem ends (safe : Safe client) {number : Nat} {sub : AcceptedRequest} (isSub : client.accepted[number]? = some sub)
    (notEnded : sub.ended = false) : (client.conclude (some number)).Idle sub.listener ∧ client.Untold sub.listener ∧
      ∃ context, client.contexts sub.listener = some context := by
  obtain ⟨context, isContext, isPending⟩ := safe.live number sub isSub notEnded
  refine ⟨?_, ?_, context, isContext⟩
  · intro number' sub' isSub' isListener
    obtain ⟨before, isBefore, listener, stays, concluded⟩ := accepted_conclude isSub'
    cases ended : sub'.ended with
    | true => rfl
    | false =>
        obtain ⟨context', isContext', isPending'⟩ := safe.live number' before isBefore (not_ended stays ended)
        rw [← listener, isListener, isContext] at isContext'
        rw [← Option.some.inj isContext', isPending] at isPending'
        rw [concluded isPending'] at ended
        exact nomatch ended
  · intro call member key isKey same
    obtain ⟨idle, -⟩ := safe.told call member key isKey
    rw [idle number sub isSub same.symm] at notEnded
    exact nomatch notEnded

theorem onError (safe : Safe client) {number : Nat}
    (may : ∀ sub ∈ client.accepted[number]?, sub.ended = false ∧ ¬ client.Expects sub.listener) :
    Survives (client.onError number) := by
  unfold BlockwiseClient.onError
  cases isSub : client.accepted[number]? with
  | none => exact .inl ⟨client, rfl, safe⟩
  | some sub =>
      obtain ⟨notEnded, unexpected⟩ := may sub isSub
      obtain ⟨idle, untold, context, isContext⟩ := safe.ends isSub notEnded
      exact (safe.conclude (some number)).notifyErrorAndTerminate isContext idle untold unexpected

theorem onContinueResponse (safe : Safe client) (isContext : client.contexts handle = some context)
    (idle : client.Idle handle) (untold : client.Untold handle) {response : Content} (answer : Except Error Unit)
    (isContinue : response.code = codeContinue) {before : RequestContext} (same : Transfer.checkEtag before response = .ok context.request)
    (unexpected : before.endsWith response = true → ¬ client.Expects handle) :
    Survives (client.onContinueResponse handle context response answer) := by
  unfold BlockwiseClient.onContinueResponse
  cases isInfo : getBlockInfo response.options optionBlock1 0 with
  | error error =>
      apply safe.notifyErrorAndTerminate isContext idle untold
      apply unexpected
      simp only [RequestContext.endsWith, same, isContinue, if_true, isInfo]
  | ok blockInfo =>
      dsimp only
      cases isSource : (nextBlock1 context.request blockInfo).source with
      | none => exact .inr rfl
      | some source =>
          dsimp only
          have active : ∀ request : RequestContext, request.block2Active = context.request.block2Active →
              .sendingNext handle ∈ client.calls → request.block2Active = true :=
            fun request unchanged member => unchanged.trans (safe.active handle member context isContext)
          cases isSized : (nextBlock1 context.request blockInfo).sized source with
          | error error =>
              have moved := safe.setRequest isContext _ (active (nextBlock1 context.request blockInfo) rfl)
              apply moved.notifyErrorAndTerminate contexts_set_self idle untold
              apply unexpected
              have isSource : context.request.source = some source := isSource
              simp [RequestContext.endsWith, same, isContinue, isInfo, isSource, isSized, Except.isOk, Except.toBool]
          | ok request =>
              have unchanged : request.block2Active = context.request.block2Active := by
                unfold RequestContext.sized at isSized
                split at isSized
                · exact nomatch isSized
                · rw [← Except.ok.inj isSized]
                  rfl
              have moved := safe.setRequest isContext request (active request unchanged)
              rcases moved.sendBlockwiseRequest contexts_set_self idle untold answer (.sendingLast handle) rfl
                (fun _ expects => nomatch expects) (fun _ isSending => nomatch isSending)
                with ⟨result, returns⟩ | ⟨next, waits, safe'⟩
              · dsimp only
                rw [returns, ok_bind]
                exact .inl ⟨_, rfl, moved⟩
              · dsimp only
                rw [waits, ok_bind]
                exact .inl ⟨next, rfl, safe'⟩

theorem onFinalResponse (safe : Safe client) (isContext : client.contexts handle = some context)
    (idle : client.Idle handle) (untold : client.Untold handle) {response : Content} (answer : Except Error Unit)
    (isFinal : response.code ≠ codeContinue) {before : RequestContext} (same : Transfer.checkEtag before response = .ok context.request)
    (unexpected : before.endsWith response = true → ¬ client.Expects handle) :
    Survives (client.onFinalResponse handle context response answer) := by
  unfold BlockwiseClient.onFinalResponse
  dsimp only
  have completed := safe.setRequest isContext { context.request with block1Active := false }
    fun member => safe.active handle member context isContext
  cases isInfo : Transfer.block2InfoOf { context.request with block1Active := false } response with
  | error error =>
      apply completed.notifyErrorAndTerminate contexts_set_self idle untold
      apply unexpected
      simp only [RequestContext.endsWith, same, if_neg isFinal, isInfo]
  | ok info =>
      have unexpected : info.more = false → ¬ client.Expects handle := by
        intro noMore
        apply unexpected
        simp only [RequestContext.endsWith, same, if_neg isFinal, isInfo, noMore, Bool.not_false]
      dsimp only
      split
      · refine .inl ⟨_, rfl, completed.tell contexts_set_self idle untold rfl fun isLast => unexpected ?_⟩
        simpa [ClientCall.finishes] using isLast
      · exact completed.continueBlock2 contexts_set_self idle untold answer unexpected

theorem onResponse (safe : Safe client) {number : Nat} {response : Content} (answer : Except Error Unit)
    (may : ∀ sub ∈ client.accepted[number]?, sub.ended = false ∧ (client.Expects sub.listener →
      ∀ context ∈ client.contexts sub.listener, context.request.endsWith response = false)) :
    Survives (client.onResponse number response answer) := by
  unfold BlockwiseClient.onResponse
  cases isSub : client.accepted[number]? with
  | none => exact .inl ⟨client, rfl, safe⟩
  | some sub =>
      obtain ⟨notEnded, fits⟩ := may sub isSub
      obtain ⟨idle, untold, context, isContext⟩ := safe.ends isSub notEnded
      have unexpected : context.request.endsWith response = true → ¬ client.Expects sub.listener := by
        intro isEnd expects
        rw [fits expects context isContext] at isEnd
        exact nomatch isEnd
      have concluded := safe.conclude (some number)
      have isContext' : (client.conclude (some number)).contexts sub.listener = some context := isContext
      dsimp only
      rw [deref_of isContext', ok_bind]
      have cleared := concluded.setLife isContext' idle untold context.request none context.destroyMonitor
        fun member => safe.active sub.listener member context isContext
      cases checks : Transfer.checkEtag context.request response with
      | error error =>
          apply cleared.notifyErrorAndTerminate contexts_set_self idle untold
          apply unexpected
          simp only [RequestContext.endsWith, checks]
      | ok request =>
          obtain ⟨etag, rfl⟩ := Transfer.checkEtag_ok checks
          have tagged := cleared.setRequest contexts_set_self { context.request with etag := etag }
            fun member => safe.active sub.listener member context isContext
          dsimp only
          split
          · rename_i isContinue
            exact tagged.onContinueResponse contexts_set_self idle untold answer isContinue checks unexpected
          · rename_i isFinal
            exact tagged.onFinalResponse contexts_set_self idle untold answer isFinal checks unexpected

theorem returns (safe : Safe client) (answer : Except Error Unit) : Survives (client.returns answer) := by
  unfold BlockwiseClient.returns
  cases isTop : client.calls with
  | nil => exact .inl ⟨client, rfl, safe⟩
  | cons call calls =>
      have popped := safe.pop isTop
      have member : call ∈ client.calls := isTop ▸ List.mem_cons_self
      have alone := safe.alone
      rw [isTop] at alone
      -- the listener has returned, and nobody else tells it anything
      have told : ∀ handle monitor, call.monitors = some (handle, monitor) →
          ({ client with calls := calls } : BlockwiseClient).Idle handle ∧
            ({ client with calls := calls } : BlockwiseClient).Untold handle ∧
            ∃ context, client.contexts handle = some context := by
        intro handle monitor isKey
        obtain ⟨idle, context, isContext, -⟩ := safe.told call member _ isKey
        refine ⟨idle, ?_, context, isContext⟩
        intro call' member' key isKey' same
        exact (List.pairwise_cons.mp alone).1 call' member' _ key isKey isKey' same.symm
      have unexpected : ∀ handle, call.finishes handle = true →
          ¬ ({ client with calls := calls } : BlockwiseClient).Expects handle := by
        rintro handle isLast ⟨call', member', expects⟩
        exact safe.last call member handle isLast ⟨call', isTop ▸ List.mem_cons_of_mem _ member', expects⟩
      cases call with
      | sendingFirst handle wantsHandle =>
          apply popped.firstSent
          · intro wants
            rcases wants with rfl | failed
            · exact safe.expected handle ⟨_, member, by simp [ClientCall.expects]⟩
            · exact absurd rfl failed
          · exact fun failed => absurd rfl failed
      | sendingNext handle =>
          obtain ⟨context, isContext⟩ := safe.expected handle ⟨_, member, decide_eq_true rfl⟩
          apply popped.checkDone isContext
          intro inactive
          rw [safe.active handle member context isContext] at inactive
          exact nomatch inactive
      | sendingLast handle => exact .inl ⟨_, rfl, popped⟩
      | tellingBlock handle monitor destroyed info =>
          dsimp only
          unfold BlockwiseClient.blockTold
          cases destroyed with
          | true => exact .inl ⟨_, rfl, popped⟩
          | false =>
              obtain ⟨idle, untold, context, isContext⟩ := told handle monitor rfl
              rw [if_neg Bool.false_ne_true, @deref_of { client with calls := calls } handle context isContext, ok_bind]
              have unmonitored := popped.setLife isContext idle untold context.request context.pendingRequest none
                fun member => popped.active handle member context isContext
              apply unmonitored.continueBlock2 contexts_set_self idle untold answer
              intro noMore
              exact unexpected handle (by simp [ClientCall.finishes, noMore])
      | tellingError handle monitor destroyed =>
          dsimp only
          unfold BlockwiseClient.errorTold
          cases destroyed with
          | true => exact .inl ⟨_, rfl, popped⟩
          | false =>
              obtain ⟨idle, untold, context, isContext⟩ := told handle monitor rfl
              rw [if_neg Bool.false_ne_true, @deref_of { client with calls := calls } handle context isContext, ok_bind]
              have unmonitored := popped.setLife isContext idle untold context.request context.pendingRequest none
                fun member => popped.active handle member context isContext
              exact unmonitored.destroy contexts_set_self (unexpected handle (by simp [ClientCall.finishes]))

theorem step (safe : Safe client) {step : ClientStep} (may : client.May step) : Survives (client.step step) := by
  cases step with
  | request method options source preferredBlockSize hasListener wantsHandle answer =>
      exact safe.request method options source preferredBlockSize hasListener wantsHandle answer
  | setPaused handle paused answer => exact safe.setPaused handle paused answer
  | cancel handle => exact safe.cancel may
  | response number response answer => exact safe.onResponse answer may
  | error number => exact safe.onError may
  | returns answer => exact safe.returns answer

theorem run (safe : Safe client) {steps : List ClientStep} (permits : client.Permits steps) : Survives (client.run steps) := by
  induction steps generalizing client with
  | nil => exact .inl ⟨client, rfl, safe⟩
  | cons step steps ih =>
      rw [BlockwiseClient.run, List.foldlM_cons]
      rcases safe.step permits.1 with ⟨next, isNext, safe'⟩ | fails
      · rw [isNext, ok_bind]
        exact ih safe' (permits.2 next isNext)
      · rw [fails]
        exact .inr rfl

end Safe

theorem safe_create (handleBase : Nat) : Safe (create handleBase) := by
  have nobody (handle : Nat) : ¬ (create handleBase).Expects handle := fun ⟨_, member, _⟩ => nomatch member
  exact ⟨fun _ _ => rfl, fun handle expects => absurd expects (nobody handle), fun _ member => (nomatch member),
    fun _ member => (nomatch member), .nil, fun _ member => (nomatch member),
    fun number _ isSub => by rw [create, List.getElem?_nil] at isSub; exact nomatch isSub⟩

/-- In every run no context is used after it was destroyed, as long as no request is ended while it sends its
    first sub-request or the one for its next block. -/
theorem contexts_not_used_after_destruction (handleBase : Nat) (steps : List ClientStep)
    (permits : (create handleBase).Permits steps) : (create handleBase).run steps ≠ .error .undefined := by
  rcases (safe_create handleBase).run permits with ⟨next, runs, -⟩ | fails
  · rw [runs]
    exact nofun
  · rw [fails]
    exact nofun

/-- A request whose listener cancels it when the second block has come. -/
def cancelledDownload : List ClientStep :=
  [.request .get [] none 0 true true (.ok ()), .returns (.ok ()), .response 0 ⟨0x45, [⟨optionBlock2, .uint 8⟩], []⟩ (.ok ()),
    .returns (.ok ()), .returns (.ok ()), .response 1 ⟨0x45, [⟨optionBlock2, .uint 16⟩], []⟩ (.ok ()), .cancel 0, .returns (.ok ())]

theorem contexts_not_used_cancelledDownload : (create 0).run cancelledDownload ≠ .error .undefined :=
  contexts_not_used_after_destruction 0 cancelledDownload (by decide +kernel)

/-- The endpoint reports that the first sub-request cannot be sent before it returns. -/
theorem failedFirst_used : (create 0).run
    [.request .get [] none 0 true true (.ok ()), .error 0, .returns (.ok ()), .returns (.ok ())] = .error .undefined := rfl

end BlockwiseClient

end GoldenGate.Coap
