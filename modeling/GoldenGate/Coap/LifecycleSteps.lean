import GoldenGate.Coap.Lifecycle

/-! # Steps in the lives of requests

Every step that disturbs no call-out keeps the lives of all the requests.
-/

namespace GoldenGate.Coap

open Memory

/-! ## Steps -/

/-- An endpoint in the middle of a step that has locked the requests, with no call waiting. -/
structure Going (state : EndpointRun) : Prop where
  walking : Walking state false
  alone : state.frames = []
  unique : (state.endpoint.requests.map (·.handle)).Nodup
  life : ∀ handle, Life state handle

theorem Going.release {state : EndpointRun} (going : Going state) : Lives (state.release false) := by
  refine ⟨going.walking.release, by simp [EndpointRun.release, going.alone],
    CoapEndpoint.unique_filter _ going.unique, ?_, ?_⟩
  · intro _ context member
    simpa using (List.mem_filter.mp member).2
  · intro handle
    have life := going.life handle
    have noFrame : ∀ frame, frame ∉ (state.release false).frames := by simp [EndpointRun.release, going.alone]
    refine ⟨life.orderly, life.bounded, ?_, ?_, fun _ member => absurd member (noFrame _),
      fun _ member => absurd member (noFrame _), fun _ _ member => absurd member (noFrame _), life.fresh⟩
    · intro context found
      exact life.fits context (CoapEndpoint.find_filter going.unique _ found).1
    · intro context found notFinishing
      exact life.goesOn context (CoapEndpoint.find_filter going.unique _ found).1 notFinishing

/-- A call-out is made. -/
theorem Going.push {state : EndpointRun} (going : Going state) {frame : Frame} (sound : Sound (state.push frame))
    (life : Life (state.push frame) frame.handle) : Lives (state.push frame) := by
  refine ⟨sound, by simp [EndpointRun.push, going.alone], going.unique, going.walking.dirty, ?_⟩
  intro handle
  by_cases isIt : frame.handle = handle
  · exact isIt ▸ life
  · exact (going.life handle).push_other isIt

theorem Going.log {state : EndpointRun} (going : Going state) {event : EndpointEvent}
    (life : Life (state.log event) event.handle) : Going (state.log event) := by
  refine ⟨going.walking.log event, going.alone, going.unique, ?_⟩
  intro handle
  by_cases isIt : event.handle = handle
  · exact isIt ▸ life
  · exact (going.life handle).log (EndpointEvent.neutral_of_ne isIt)

/-- A request that is ready is given to the sink. -/
theorem Going.put {state : EndpointRun} (going : Going state) {context : CoapRequestContext}
    (member : context ∈ state.endpoint.requests) (isReady : context.state = .readyToSend) (next : Option Nat) :
    Lives ((state.log (.put context.handle)).push (.putting context.handle ⟨next, false⟩)) := by
  have logged : Going (state.log (.put context.handle)) :=
    going.log ((going.life context.handle).log ⟨rfl, by simp, by simp⟩)
  have found : (state.log (.put context.handle)).endpoint.find context.handle = some context :=
    CoapEndpoint.find_of_mem going.unique member
  apply logged.push
  · exact going.walking.walked (.inr ⟨context, member, isReady, next, rfl⟩)
  · have life := logged.life context.handle
    refine ⟨life.orderly, life.bounded, life.fits, ?_, ?_, ?_, ?_, life.fresh⟩
    · intro context' found' notFinishing
      exact life.goesOn context' found' (fun frame below => notFinishing frame (List.mem_cons_of_mem _ below))
    · intro frame isFrame isFinishing
      rcases List.mem_cons.mp isFrame with rfl | below
      · exact nomatch isFinishing
      · exact life.finishes frame below isFinishing
    · exact fun _ _ => ⟨context, found, isReady⟩
    · intro reply wasLocked isFrame
      rcases List.mem_cons.mp isFrame with same | below
      · exact nomatch same
      · exact life.acking reply wasLocked below

theorem Going.walked {state state' : EndpointRun} (going : Going state)
    (walks : state' = state.release false ∨ ∃ context ∈ state.endpoint.requests, context.state = .readyToSend ∧
      ∃ next, state' = (state.log (.put context.handle)).push (.putting context.handle ⟨next, false⟩)) : Lives state' := by
  rcases walks with rfl | ⟨context, member, isReady, next, rfl⟩
  · exact going.release
  · exact going.put member isReady next

/-- With no call waiting the requests are not locked. -/
theorem Lives.notLocked {state : EndpointRun} (lives : Lives state) (alone : state.frames = []) :
    state.endpoint.locked = false := by
  rw [lives.sound.locked, alone]
  rfl

theorem Lives.lock {state : EndpointRun} (lives : Lives state) (alone : state.frames = []) :
    Going { state with endpoint := { state.endpoint with locked := true } } := by
  have walking := lives.sound.lock
  rw [lives.notLocked alone] at walking
  refine ⟨walking, alone, lives.unique, ?_⟩
  intro handle
  exact (lives.life handle).withEndpoint rfl (Nat.le_refl _)

theorem Lives.sendPendingRequests {state : EndpointRun} (lives : Lives state) (alone : state.frames = []) :
    Lives state.sendPendingRequests := by
  unfold EndpointRun.sendPendingRequests
  simp only [lives.notLocked alone]
  exact (lives.lock alone).walked (EndpointRun.walkFrom_cases _ _ _)

/-- The context of one request is changed, with no call waiting. -/
theorem Going.modify {state : EndpointRun} (going : Going state) {handle : Nat}
    {f : CoapRequestContext → CoapRequestContext} (keeps : ∀ context, (f context).handle = context.handle)
    (life : Life { state with endpoint := state.endpoint.modify handle f } handle) :
    Going { state with endpoint := state.endpoint.modify handle f } := by
  refine ⟨going.walking.modify keeps, going.alone, CoapEndpoint.unique_modify keeps going.unique, ?_⟩
  intro handle'
  by_cases isIt : handle' = handle
  · exact isIt ▸ life
  · exact (going.life handle').withEndpoint (CoapEndpoint.find_modify_ne keeps isIt) (Nat.le_refl _)

/-- The listener of a new request has heard nothing. -/
theorem Lives.silent_created {state : EndpointRun} (lives : Lives state) (maxResendCount : Nat) :
    callbacks (state.history ++ [EndpointEvent.created (state.endpoint.tokenCounter + 1) maxResendCount])
      (state.endpoint.tokenCounter + 1) = [] := by
  have fresh := (lives.life (state.endpoint.tokenCounter + 1)).fresh (Nat.lt_succ_self _)
  rw [callbacks_concat, callbacks, List.filter_eq_nil_iff.mpr]
  · rfl
  · intro event member
    simp [(fresh event member).2.2]

/-- A request begins its life. -/
theorem life_created {state : EndpointRun} (lives : Lives state) (resendTimeout : UInt32) (maxResendCount : Nat)
    (token : List UInt8) {endpoint : CoapEndpoint} (counter : endpoint.tokenCounter = state.endpoint.tokenCounter + 1)
    (found : endpoint.find (state.endpoint.tokenCounter + 1) =
      some ⟨state.endpoint.tokenCounter + 1, token, .readyToSend, some true, resendTimeout, 0, UInt8.ofNat maxResendCount⟩)
    (alone : state.frames = []) :
    Life ⟨endpoint, state.frames, state.history ++ [EndpointEvent.created (state.endpoint.tokenCounter + 1) maxResendCount]⟩
      (state.endpoint.tokenCounter + 1) := by
  have fresh := (lives.life (state.endpoint.tokenCounter + 1)).fresh (Nat.lt_succ_self _)
  have noCalls := lives.silent_created maxResendCount
  have notSent : (state.history ++ [EndpointEvent.created (state.endpoint.tokenCounter + 1) maxResendCount]).count
      (EndpointEvent.sent (state.endpoint.tokenCounter + 1)) = 0 := by
    rw [count_sent_concat _ (by simp), List.count_eq_zero]
    intro member
    exact (fresh _ member).1 rfl
  have noFrame : ∀ frame, frame ∉ state.frames := by simp [alone]
  refine ⟨.inl noCalls, ?_, ?_, ?_, fun _ member => absurd member (noFrame _), fun _ member => absurd member (noFrame _),
    fun _ _ member => absurd member (noFrame _), ?_⟩
  · intro max _
    rw [notSent]
    exact Nat.zero_le _
  · intro context found'
    rw [found] at found'
    rw [← Option.some.inj found']
    refine ⟨?_, UInt8.zero_le, ?_, fun isCancelled => (nomatch isCancelled), fun isAcked => (nomatch isAcked)⟩
    · rw [notSent]
      exact Nat.zero_le _
    · intro max member
      rcases List.mem_append.mp member with old | new
      · exact absurd rfl ((fresh _ old).2.1 max)
      · obtain ⟨-, rfl⟩ := EndpointEvent.created.inj (List.mem_singleton.mp new)
        simp
  · intro context found' _
    rw [found] at found'
    rw [← Option.some.inj found']
    exact ⟨fun _ => noCalls, fun isAcked => (nomatch isAcked)⟩
  · intro less
    rw [counter] at less
    exact absurd less (Nat.lt_irrefl _)

theorem Lives.sendRequest {state : EndpointRun} (lives : Lives state) (alone : state.frames = []) (resendTimeout : UInt32)
    (maxResendCount : Nat) : Lives (state.sendRequest resendTimeout maxResendCount) := by
  have new : ∀ context ∈ state.endpoint.requests, context.handle ≠ state.endpoint.tokenCounter + 1 := by
    intro context member same
    have known := lives.sound.known context member
    omega
  unfold EndpointRun.sendRequest
  simp only
  refine Lives.sendPendingRequests ?_ alone
  refine ⟨?_, by simp [EndpointRun.log, alone], ?_, ?_, ?_⟩
  · refine ⟨lives.sound.locked, lives.sound.wellLocked, ?_, ?_⟩
    · intro frame member
      simp [EndpointRun.log, alone] at member
    · intro context member
      rcases List.mem_append.mp member with old | isNew
      · exact Nat.le_succ_of_le (lives.sound.known context old)
      · rw [List.mem_singleton.mp isNew]
  · simp only [EndpointRun.log, List.map_append, List.map_cons, List.map_nil]
    apply List.nodup_append.mpr
    refine ⟨lives.unique, by simp, ?_⟩
    intro handle old handle' isNew
    obtain ⟨context, member, rfl⟩ := List.mem_map.mp old
    rw [List.mem_singleton.mp isNew]
    exact new context member
  · intro _ context member
    rcases List.mem_append.mp member with old | isNew
    · exact lives.clean (lives.notLocked alone) context old
    · rw [List.mem_singleton.mp isNew]
      simp
  · intro handle
    by_cases isIt : handle = state.endpoint.tokenCounter + 1
    · rw [isIt]
      refine life_created lives resendTimeout maxResendCount
        (state.endpoint.tokenPrefix ++ bytesFromInt32Be (UInt32.ofNat state.endpoint.tokenCounter)) rfl ?_ alone
      unfold CoapEndpoint.find
      rw [List.find?_append, List.find?_eq_none.mpr (by simpa [EndpointRun.log] using new)]
      simp
    · have logged := (lives.life handle).log (EndpointEvent.neutral_of_ne
        (show (EndpointEvent.created (state.endpoint.tokenCounter + 1) maxResendCount).handle ≠ handle from
          fun same => isIt same.symm))
      refine logged.withEndpoint ?_ (Nat.le_succ _)
      unfold CoapEndpoint.find
      rw [List.find?_append]
      have notNew : ¬ state.endpoint.tokenCounter + 1 = handle := fun same => isIt same.symm
      simp [EndpointRun.log, notNew]

/-- A request is gone. -/
theorem Life.removed {state : EndpointRun} {handle : Nat} (life : Life state handle) {endpoint : CoapEndpoint}
    (gone : endpoint.find handle = none) (counter : endpoint.tokenCounter = state.endpoint.tokenCounter) :
    Life ⟨endpoint, [], state.history⟩ handle := by
  refine ⟨life.orderly, life.bounded, ?_, ?_, fun _ member => (nomatch member), fun _ member => (nomatch member),
    fun _ _ member => (nomatch member), ?_⟩
  · intro context found
    rw [gone] at found
    exact nomatch found
  · intro context found
    rw [gone] at found
    exact nomatch found
  · rw [counter]
    exact life.fresh

theorem CoapEndpoint.find_remove (endpoint : CoapEndpoint) (handle : Nat) :
    { endpoint with requests := endpoint.requests.filter (·.handle ≠ handle) }.find handle = none := by
  apply List.find?_eq_none.mpr
  intro context member
  simpa using (List.mem_filter.mp member).2

theorem CoapEndpoint.find_remove_ne (endpoint : CoapEndpoint) {handle handle' : Nat} (other : handle' ≠ handle) :
    { endpoint with requests := endpoint.requests.filter (·.handle ≠ handle) }.find handle' = endpoint.find handle' := by
  unfold find
  rw [List.find?_filter]
  congr 1
  funext context
  by_cases isIt : context.handle = handle'
  · simp [isIt, other]
  · simp [isIt]

/-- A request is destroyed, with no call waiting. -/
theorem Lives.remove {state : EndpointRun} (sound : Sound state) (alone : state.frames = [])
    (unique : (state.endpoint.requests.map (·.handle)).Nodup)
    (clean : ∀ context ∈ state.endpoint.requests, context.state ≠ .cancelled) {handle : Nat}
    (others : ∀ handle' ≠ handle, Life state handle')
    (gone : Life { state with endpoint := state.endpoint.cancel handle } handle) :
    Lives { state with endpoint := state.endpoint.cancel handle } := by
  have cancelled := sound.cancel handle
  have notLocked : state.endpoint.locked = false := by
    rw [sound.locked, alone]
    rfl
  have isCancel : state.endpoint.cancel handle =
      { state.endpoint with requests := state.endpoint.requests.filter (·.handle ≠ handle) } := by
    rw [CoapEndpoint.cancel, if_neg (by simp [notLocked])]
  rw [isCancel] at cancelled gone ⊢
  refine ⟨cancelled, by simp [alone], CoapEndpoint.unique_filter _ unique, ?_, ?_⟩
  · intro _ context member
    exact clean context (List.mem_filter.mp member).1
  · intro handle'
    by_cases isIt : handle' = handle
    · rw [isIt]
      exact gone
    · exact (others handle' isIt).withEndpoint (CoapEndpoint.find_remove_ne _ isIt) (Nat.le_refl _)

/-- What counts for no request. -/
theorem Lives.log {state : EndpointRun} (lives : Lives state) {event : EndpointEvent}
    (neutral : ∀ handle, event.Neutral handle) : Lives (state.log event) := by
  have sound := lives.sound
  refine ⟨⟨sound.locked, sound.wellLocked, sound.pointed, sound.known⟩, lives.alone, lives.unique, lives.clean, ?_⟩
  intro handle
  exact (lives.life handle).log (neutral handle)

theorem CoapEndpoint.find_cancel (endpoint : CoapEndpoint) (notLocked : endpoint.locked = false) (handle : Nat) :
    (endpoint.cancel handle).find handle = none ∧ (endpoint.cancel handle).tokenCounter = endpoint.tokenCounter := by
  rw [CoapEndpoint.cancel, if_neg (by simp [notLocked])]
  exact ⟨endpoint.find_remove handle, rfl⟩

theorem Lives.cancelRequest {state state' : EndpointRun} (lives : Lives state) (alone : state.frames = []) {handle : Nat}
    (cancels : state.step (.cancelRequest handle) = .ok state') : Lives state' := by
  rcases state.step_cancelRequest handle with ⟨-, same⟩ | ⟨context, -, isCancelled⟩
  · rw [same] at cancels
    exact Except.ok.inj cancels ▸ lives
  · rw [isCancelled] at cancels
    rw [← Except.ok.inj cancels]
    apply Lives.log
    · apply Lives.remove lives.sound alone lives.unique (lives.clean (lives.notLocked alone))
      · exact fun handle' _ => lives.life handle'
      · obtain ⟨gone, counter⟩ := state.endpoint.find_cancel (lives.notLocked alone) handle
        have removed := (lives.life handle).removed gone counter
        rw [← alone] at removed
        exact removed
    · exact fun handle' => ⟨rfl, by simp, by simp⟩

/-! ## The timer -/

/-- A request whose timer is scheduled has told its listener nothing. -/
theorem Lives.waiting {state : EndpointRun} (lives : Lives state) (alone : state.frames = []) {handle : Nat}
    {context : CoapRequestContext} (found : state.endpoint.find handle = some context)
    (scheduled : context.resendTimer = some true) : callbacks state.history handle = [] := by
  obtain ⟨member, rfl⟩ := CoapEndpoint.find_eq found
  apply ((lives.life context.handle).goesOn context found (by simp [alone])).waits
  cases isState : context.state with
  | readyToSend => exact .inl rfl
  | waitingForAck => exact .inr rfl
  | acked =>
      have gone := ((lives.life context.handle).fits context found).acked isState
      rw [scheduled] at gone
      exact nomatch gone
  | cancelled => exact absurd isState (lives.clean (lives.notLocked alone) context member)

theorem Fits.resending {history : List EndpointEvent} {context : CoapRequestContext} (fits : Fits history context)
    (less : context.resendCount < context.maxResendCount) : Fits history context.resending := by
  have below : context.resendCount.toNat < context.maxResendCount.toNat := UInt8.lt_iff_toNat_lt.mp less
  have small := context.maxResendCount.toNat_lt
  have next : (context.resendCount + 1).toNat = context.resendCount.toNat + 1 := by
    rw [UInt8.toNat_add]
    exact Nat.mod_eq_of_lt (by simp; omega)
  refine ⟨?_, ?_, fits.max, fun isCancelled => (nomatch isCancelled), fun isAcked => (nomatch isAcked)⟩
  · have sends := fits.sends
    simp only [CoapRequestContext.resending, next]
    split at sends <;> simp <;> omega
  · apply UInt8.le_iff_toNat_le.mpr
    simp only [CoapRequestContext.resending, next]
    exact below

theorem Lives.resending {state : EndpointRun} (lives : Lives state) (alone : state.frames = []) {handle : Nat}
    {context : CoapRequestContext} (found : state.endpoint.find handle = some context)
    (scheduled : context.resendTimer = some true) (less : context.resendCount < context.maxResendCount) :
    Lives { state with endpoint := state.endpoint.modify handle .resending } := by
  have isHandle := (CoapEndpoint.find_eq found).2
  have sound := lives.sound
  refine ⟨⟨sound.locked, sound.wellLocked, ?_, known_modify (fun _ => rfl) sound.known⟩, lives.alone,
    CoapEndpoint.unique_modify (fun _ => rfl) lives.unique, ?_, ?_⟩
  · intro frame member
    simp [alone] at member
  · intro _ context' member
    obtain ⟨original, isOriginal, rfl⟩ := List.mem_map.mp member
    split
    · simp [CoapRequestContext.resending]
    · exact lives.clean (lives.notLocked alone) original isOriginal
  · intro handle'
    by_cases isIt : handle' = handle
    · rw [isIt]
      refine (lives.life handle).modify alone (fun _ => rfl) ?_ ?_
      · intro context' found'
        rw [found] at found'
        rw [← Option.some.inj found']
        exact ((lives.life handle).fits context found).resending less
      · intro context' found'
        rw [found] at found'
        rw [← Option.some.inj found']
        refine ⟨fun _ => ?_, fun isAcked => (nomatch isAcked)⟩
        simp only [CoapRequestContext.resending, isHandle]
        exact lives.waiting alone found scheduled
    · exact (lives.life handle').withEndpoint (CoapEndpoint.find_modify_ne (fun _ => rfl) isIt) (Nat.le_refl _)

/-- Nothing but the timer of a request is changed. -/
theorem Life.retimed {state : EndpointRun} {handle : Nat} (life : Life state handle) (alone : state.frames = [])
    {f : CoapRequestContext → CoapRequestContext} (keeps : ∀ context, (f context).handle = context.handle)
    {timer : Option Bool} (onlyTimer : ∀ context, state.endpoint.find handle = some context →
      f context = { context with resendTimer := timer } ∧ (context.state = .acked → timer = none)) :
    Life { state with endpoint := state.endpoint.modify handle f } handle := by
  refine life.modify alone keeps ?_ ?_
  · intro context found
    have fits := life.fits context found
    rw [(onlyTimer context found).1]
    exact ⟨fits.sends, fits.counts, fits.max, fits.cancelled, (onlyTimer context found).2⟩
  · intro context found
    have goesOn := life.goesOn context found (by simp [alone])
    rw [(onlyTimer context found).1]
    exact ⟨goesOn.waits, goesOn.acked⟩

/-- The listener is told how its request ended, and nothing else happens. -/
theorem lives_finish {state : EndpointRun} (alone : state.frames = [])
    (unique : (state.endpoint.requests.map (·.handle)).Nodup) (lives : ∀ handle, Life state handle) {event : EndpointEvent}
    {frame : Frame} (clean : state.endpoint.locked = false → ∀ context ∈ state.endpoint.requests, context.state ≠ .cancelled)
    (sound : Sound ((state.log event).push frame)) (isFinishing : frame.finishes event.handle = true)
    (told : event.tellsListener event.handle = true) (known : event.handle ≤ state.endpoint.tokenCounter)
    (ended : Ended event.handle (callbacks (state.history ++ [event]) event.handle)) :
    Lives ((state.log event).push frame) := by
  have same : frame.handle = event.handle := by
    cases frame <;> simp_all [Frame.finishes, Frame.handle]
  refine ⟨sound, by simp [EndpointRun.push, EndpointRun.log, alone], unique, clean, ?_⟩
  intro handle
  by_cases isIt : handle = event.handle
  · rw [isIt]
    apply (lives event.handle).finish alone known isFinishing
    · intro isSent
      rw [isSent] at told
      cases told
    · intro max isCreated
      rw [isCreated] at told
      cases told
    · exact ended
  · refine Life.push_other ?_ (fun isHandle => isIt (isHandle.symm.trans same))
    exact (lives handle).log (EndpointEvent.neutral_of_ne (fun isHandle => isIt isHandle.symm))

theorem ended_error {history : List EndpointEvent} {handle : Nat} (silent : callbacks history handle = []) (error : Error) :
    Ended handle (callbacks (history ++ [EndpointEvent.error handle error]) handle) := by
  rw [callbacks_concat, silent]
  exact .inr ⟨error, .inl (by simp [EndpointEvent.tellsListener])⟩

theorem Lives.known {state : EndpointRun} (lives : Lives state) {handle : Nat} {context : CoapRequestContext}
    (found : state.endpoint.find handle = some context) : handle ≤ state.endpoint.tokenCounter := by
  obtain ⟨member, rfl⟩ := CoapEndpoint.find_eq found
  exact lives.sound.known context member

theorem Lives.onTimerFired {state : EndpointRun} (lives : Lives state) (alone : state.frames = []) (handle : Nat) :
    Lives (state.onTimerFired handle) := by
  have sound := lives.sound.onTimerFired handle
  unfold EndpointRun.onTimerFired at sound ⊢
  cases found : state.endpoint.find handle with
  | none => exact lives
  | some context =>
      rw [found] at sound
      simp only at sound ⊢
      by_cases scheduled : context.resendTimer = some true
      · rw [if_neg (by simp [scheduled])] at sound ⊢
        by_cases less : context.resendCount < context.maxResendCount
        · rw [if_pos less]
          exact (lives.resending alone found scheduled less).sendPendingRequests alone
        · rw [if_neg less] at sound ⊢
          have silent := lives.waiting alone found scheduled
          refine @lives_finish { state with endpoint := state.endpoint.modify handle .timerDue } alone
            (CoapEndpoint.unique_modify (fun _ => rfl) lives.unique) ?_ (.error handle .timeout) (.timingOut handle) ?_ sound
            (by simp [Frame.finishes, EndpointEvent.handle]) (by simp [EndpointEvent.tellsListener, EndpointEvent.handle])
            (lives.known found) (ended_error silent _)
          · intro handle'
            by_cases isIt : handle' = handle
            · rw [isIt]
              refine @Life.retimed _ _ (lives.life handle) alone _ (fun _ => rfl) (some false) ?_
              intro context' found'
              refine ⟨rfl, ?_⟩
              intro isAcked
              have gone := ((lives.life handle).fits context' found').acked isAcked
              rw [found] at found'
              rw [← Option.some.inj found', scheduled] at gone
              cases gone
            · exact (lives.life handle').withEndpoint (CoapEndpoint.find_modify_ne (fun _ => rfl) isIt) (Nat.le_refl _)
          · intro _ context' member
            obtain ⟨original, isOriginal, rfl⟩ := List.mem_map.mp member
            have notCancelled := lives.clean (lives.notLocked alone) original isOriginal
            split
            · exact notCancelled
            · exact notCancelled
      · rw [if_pos scheduled]
        exact lives

/-! ## Messages -/

theorem ended_event {history : List EndpointEvent} {handle : Nat} (reply : Reply)
    (calls : callbacks history handle = [.ack handle] ∨ callbacks history handle = [] ∧ reply.type = .rst) :
    Ended handle (callbacks (history ++ [reply.event handle]) handle) := by
  rcases calls with acked | ⟨silent, isReset⟩
  · rw [callbacks_concat, acked]
    unfold Reply.event
    split
    · exact .inr ⟨.coapReset, .inr (by simp [EndpointEvent.tellsListener])⟩
    · split
      · exact .inr ⟨.coapUnexpectedMessage, .inr (by simp [EndpointEvent.tellsListener])⟩
      · exact .inl (by simp [EndpointEvent.tellsListener])
  · rw [Reply.event, if_pos isReset]
    exact ended_error silent _

theorem Reply.event_handle (reply : Reply) (handle : Nat) :
    (reply.event handle).handle = handle ∧ (reply.event handle).tellsListener handle = true := by
  unfold Reply.event
  split
  · exact ⟨rfl, by simp [EndpointEvent.tellsListener]⟩
  · split
    · exact ⟨rfl, by simp [EndpointEvent.tellsListener]⟩
    · exact ⟨rfl, by simp [EndpointEvent.tellsListener]⟩

/-- The part after the ACK. -/
theorem Going.notify {state : EndpointRun} (going : Going state) {handle : Nat} {context : CoapRequestContext}
    (found : state.endpoint.find handle = some context) (reply : Reply)
    (calls : callbacks state.history handle = [.ack handle] ∨ callbacks state.history handle = [] ∧ reply.type = .rst) :
    Lives (state.notify handle reply false) := by
  obtain ⟨member, isHandle⟩ := CoapEndpoint.find_eq found
  have sound := going.walking.notify ⟨context, member, isHandle⟩ reply
  unfold EndpointRun.notify at sound ⊢
  split
  · exact going.release
  · rename_i notEmpty
    rw [if_neg notEmpty] at sound
    obtain ⟨sameHandle, told⟩ := reply.event_handle handle
    apply lives_finish going.alone going.unique going.life going.walking.dirty sound
    · rw [sameHandle]
      simp [Frame.finishes]
    · rw [sameHandle]
      exact told
    · rw [sameHandle, ← isHandle]
      exact going.walking.known context member
    · rw [sameHandle]
      exact ended_event reply calls

theorem CoapRequestContext.acknowledges_iff (context : CoapRequestContext) (reply : Reply) :
    context.acknowledges reply = true ↔
      (context.state = .readyToSend ∨ context.state = .waitingForAck) ∧ reply.type ≠ .rst := by
  simp [acknowledges]

theorem CoapEndpoint.find_answered {endpoint : CoapEndpoint} {context : CoapRequestContext}
    (found : endpoint.find context.handle = some context) (reply : Reply) :
    (endpoint.modify context.handle (·.answered reply)).find context.handle = some (context.answered reply) := by
  rw [@find_modify_self endpoint context.handle (·.answered reply) (fun _ => rfl), found]
  rfl

/-- The listener is told of the ACK. -/
theorem Life.acknowledged {state : EndpointRun} {context : CoapRequestContext} (life : Life state context.handle)
    (alone : state.frames = []) (known : context.handle ≤ state.endpoint.tokenCounter)
    (found : state.endpoint.find context.handle = some context) {reply : Reply}
    (acknowledges : context.acknowledges reply = true) (wasLocked : Bool) :
    Life (({ state with endpoint := state.endpoint.modify context.handle (·.answered reply) }.log
      (.ack context.handle)).push (.acking context.handle reply wasLocked)) context.handle := by
  have fits := life.fits context found
  have silent := (life.goesOn context found (by simp [alone])).waits ((context.acknowledges_iff reply).mp acknowledges).1
  have calls : callbacks (state.history ++ [EndpointEvent.ack context.handle]) context.handle = [.ack context.handle] := by
    rw [callbacks_concat, silent]
    simp [EndpointEvent.tellsListener]
  have isAcked : (context.answered reply).state = .acked := by
    simp [CoapRequestContext.answered, acknowledges]
  have found' := CoapEndpoint.find_answered found reply
  have created : ∀ max, .created context.handle max ∈ state.history ++ [EndpointEvent.ack context.handle] →
      .created context.handle max ∈ state.history := by
    intro max member
    simpa using member
  refine ⟨.inr (.inl calls), ?_, ?_, ?_, ?_, ?_, ?_, fun fresh => absurd known (Nat.not_le.mpr fresh)⟩
  · intro max member
    simp only [EndpointRun.push, EndpointRun.log, count_sent_concat _ (by simp : EndpointEvent.ack _ ≠ .sent _)]
    exact life.bounded max (created max member)
  · intro context' isIt
    rw [← Option.some.inj (found'.symm.trans isIt)]
    refine ⟨?_, fits.counts, fun max member => fits.max max (created max member), ?_, fun _ => rfl⟩
    · have sends := fits.sends
      rw [isAcked]
      simp only [EndpointRun.push, EndpointRun.log, CoapRequestContext.answered,
        count_sent_concat _ (by simp : EndpointEvent.ack _ ≠ .sent _)]
      split at sends <;> simp <;> omega
    · intro isCancelled
      rw [isAcked] at isCancelled
      cases isCancelled
  · intro context' isIt _
    rw [← Option.some.inj (found'.symm.trans isIt)]
    refine ⟨?_, fun _ => calls⟩
    intro waits
    rw [isAcked] at waits
    simp at waits
  · intro frame member isFinishing
    simp only [EndpointRun.push, EndpointRun.log, alone, List.mem_singleton] at member
    rw [member] at isFinishing
    cases isFinishing
  · intro walk member
    simp [EndpointRun.push, EndpointRun.log, alone] at member
  · exact fun _ _ _ => ⟨_, found', isAcked⟩

/-- A message comes for a request. -/
theorem Going.answered {state : EndpointRun} (going : Going state) {context : CoapRequestContext}
    (member : context ∈ state.endpoint.requests) (notCancelled : context.state ≠ .cancelled) (reply : Reply) :
    Lives (if context.acknowledges reply then
        ({ state with endpoint := state.endpoint.modify context.handle (·.answered reply) }.log
          (.ack context.handle)).push (.acking context.handle reply false)
      else { state with endpoint := state.endpoint.modify context.handle (·.answered reply) }.notify
        context.handle reply false) := by
  have found := CoapEndpoint.find_of_mem going.unique member
  have life := going.life context.handle
  have known := going.walking.known context member
  have exists' := @exists_modify state.endpoint context.handle context.handle (·.answered reply) (fun _ => rfl)
    ⟨context, member, rfl⟩
  split
  · rename_i acknowledges
    refine ⟨?_, by simp [EndpointRun.push, EndpointRun.log, going.alone],
      CoapEndpoint.unique_modify (fun _ => rfl) going.unique, going.walking.dirty, ?_⟩
    · have walking := @Walking.modify _ _ going.walking context.handle (·.answered reply) (fun _ => rfl)
      apply (walking.log (.ack context.handle)).push rfl
      intro handle isHandle
      rw [← Option.some.inj isHandle]
      exact exists'
    · intro handle
      by_cases isIt : handle = context.handle
      · rw [isIt]
        exact life.acknowledged going.alone known found acknowledges false
      · refine Life.push_other (Life.log ?_ (EndpointEvent.neutral_of_ne (fun same => isIt same.symm)))
          (fun same => isIt same.symm)
        exact (going.life handle).withEndpoint (CoapEndpoint.find_modify_ne (fun _ => rfl) isIt) (Nat.le_refl _)
  · rename_i notAcknowledges
    have answers : context.answered reply = { context with resendTimer := none } := by
      simp [CoapRequestContext.answered, notAcknowledges]
    have modified : Going { state with endpoint := state.endpoint.modify context.handle (·.answered reply) } := by
      refine going.modify (fun _ => rfl) (@Life.retimed _ _ life going.alone _ (fun _ => rfl) none ?_)
      intro context' found'
      rw [found] at found'
      rw [← Option.some.inj found']
      exact ⟨answers, fun _ => rfl⟩
    apply modified.notify (CoapEndpoint.find_answered found reply) reply
    have goesOn := life.goesOn context found (by simp [going.alone])
    rw [CoapRequestContext.acknowledges_iff] at notAcknowledges
    cases isState : context.state with
    | acked => exact .inl (goesOn.acked isState)
    | cancelled => exact absurd isState notCancelled
    | readyToSend | waitingForAck =>
        have isReset : reply.type = .rst := by
          simpa [isState] using notAcknowledges
        exact .inr ⟨goesOn.waits (by simp [isState]), isReset⟩

theorem Lives.onResponse {state : EndpointRun} (lives : Lives state) (alone : state.frames = []) (reply : Reply) :
    Lives (state.onResponse reply) := by
  have going := lives.lock alone
  unfold EndpointRun.onResponse
  simp only [lives.notLocked alone]
  split
  · exact going.release
  · rename_i context found
    have member := List.mem_of_find?_eq_some found
    exact going.answered member (lives.clean (lives.notLocked alone) context member) reply

/-! ## Call-outs return -/

/-- The call-out that was made last returns. -/
theorem Lives.top {state : EndpointRun} (lives : Lives state) {frame : Frame} {frames : List Frame}
    (isTop : state.frames = frame :: frames) : frames = [] := by
  have alone := lives.alone
  rw [isTop] at alone
  simpa using alone

/-- A call that has locked the requests goes on. -/
theorem Lives.popped {state : EndpointRun} (lives : Lives state) {frame : Frame} (isTop : state.frames = [frame])
    {wasLocked : Bool} (locks : frame.lock = some wasLocked) :
    wasLocked = false ∧ Walking { state with frames := [] } false := by
  have walking := lives.sound.pop isTop locks
  have notLocked : wasLocked = false := walking.wasLocked
  rw [notLocked] at walking
  exact ⟨notLocked, walking⟩

/-- No listener was told how its request ended. -/
theorem Lives.going {state : EndpointRun} (lives : Lives state) {frame : Frame} (isTop : state.frames = [frame])
    {wasLocked : Bool} (locks : frame.lock = some wasLocked) (notFinishing : ∀ handle, frame.finishes handle = false) :
    Going { state with frames := [] } :=
  ⟨(lives.popped isTop locks).2, rfl, lives.unique, fun handle => (lives.life handle).pop isTop (notFinishing handle)⟩

/-- The request has ended and is marked. -/
theorem Life.cancelled {state : EndpointRun} {handle : Nat} (life : Life state handle)
    (ended : Ended handle (callbacks state.history handle)) {endpoint : CoapEndpoint}
    (counter : endpoint.tokenCounter = state.endpoint.tokenCounter)
    (marked : endpoint.find handle = (state.endpoint.find handle).map ({ · with state := .cancelled })) :
    Life ⟨endpoint, [], state.history⟩ handle := by
  refine ⟨life.orderly, life.bounded, ?_, ?_, fun _ member => (nomatch member), fun _ member => (nomatch member),
    fun _ _ member => (nomatch member), counter.symm ▸ life.fresh⟩
  · intro context found
    rw [marked] at found
    obtain ⟨original, isOriginal, rfl⟩ := Option.map_eq_some_iff.mp found
    have fits := life.fits original isOriginal
    have isHandle := (CoapEndpoint.find_eq isOriginal).2
    refine ⟨?_, fits.counts, fits.max, fun _ => isHandle.symm ▸ ended, fun isAcked => (nomatch isAcked)⟩
    have sends := fits.sends
    simp only [reduceCtorEq, ↓reduceIte]
    split at sends <;> omega
  · intro context found _
    rw [marked] at found
    obtain ⟨original, -, rfl⟩ := Option.map_eq_some_iff.mp found
    exact ⟨fun waits => by simp at waits, fun isAcked => (nomatch isAcked)⟩

/-- The request whose listener was told how it ended is marked. -/
theorem Lives.finished {state : EndpointRun} (lives : Lives state) {frame : Frame} (isTop : state.frames = [frame])
    {wasLocked : Bool} (locks : frame.lock = some wasLocked) (isFinishing : frame.finishes frame.handle = true) :
    Going ⟨state.endpoint.cancel frame.handle, [], state.history⟩ := by
  have walking := (lives.popped isTop locks).2
  have ended := (lives.life frame.handle).finishes frame (by rw [isTop]; exact List.mem_singleton_self _) isFinishing
  refine ⟨walking.cancel frame.handle, rfl, ?_, ?_⟩
  · rw [CoapEndpoint.cancel_locked walking.locked]
    exact CoapEndpoint.unique_modify (fun _ => rfl) lives.unique
  · intro handle
    rw [CoapEndpoint.cancel_locked walking.locked]
    by_cases isIt : handle = frame.handle
    · rw [isIt]
      exact (lives.life frame.handle).cancelled ended rfl (state.endpoint.find_setState frame.handle .cancelled)
    · have notFinishing : frame.finishes handle = false := by
        cases frame <;> simp_all [Frame.finishes, Frame.handle, eq_comm]
      exact ((lives.life handle).pop isTop notFinishing).withEndpoint
        (CoapEndpoint.find_modify_ne (fun _ => rfl) isIt) (Nat.le_refl _)

/-- The sink has taken the request. -/
theorem Life.sent {state : EndpointRun} {handle : Nat} (life : Life state handle) (alone : state.frames = [])
    {context : CoapRequestContext} (found : state.endpoint.find handle = some context)
    (known : handle ≤ state.endpoint.tokenCounter) (isReady : context.state = .readyToSend) :
    Life ({ state with endpoint := state.endpoint.setState handle .waitingForAck }.log (.sent handle)) handle := by
  have fits := life.fits context found
  obtain ⟨-, rfl⟩ := CoapEndpoint.find_eq found
  have silent := (life.goesOn context found (by simp [alone])).waits (.inl isReady)
  have calls : callbacks (state.history ++ [EndpointEvent.sent context.handle]) context.handle = [] := by
    rw [callbacks_concat, silent]
    rfl
  have found' : (state.endpoint.setState context.handle .waitingForAck).find context.handle =
      some { context with state := .waitingForAck } := by
    rw [CoapEndpoint.find_setState, found]
    rfl
  have count : (state.history ++ [EndpointEvent.sent context.handle]).count (EndpointEvent.sent context.handle) ≤
      context.resendCount.toNat + 1 := by
    have sends := fits.sends
    rw [if_pos isReady] at sends
    rw [List.count_append, List.count_singleton_self]
    exact Nat.succ_le_succ sends
  have created : ∀ max, .created context.handle max ∈ state.history ++ [EndpointEvent.sent context.handle] →
      .created context.handle max ∈ state.history := by
    intro max member
    simpa using member
  have noFrame : ∀ frame, frame ∉ state.frames := by simp [alone]
  refine ⟨.inl calls, ?_, ?_, ?_, fun _ member => absurd member (noFrame _), fun _ member => absurd member (noFrame _),
    fun _ _ member => absurd member (noFrame _), fun fresh => absurd known (Nat.not_le.mpr fresh)⟩
  · intro max member
    have isMax := fits.max max (created max member)
    have counts := UInt8.le_iff_toNat_le.mp fits.counts
    simp only [EndpointRun.log]
    omega
  · intro context' isIt
    rw [← Option.some.inj (found'.symm.trans isIt)]
    exact ⟨by simpa only [EndpointRun.log, reduceCtorEq, ↓reduceIte] using count, fits.counts, fun max member => fits.max max (created max member),
      fun isCancelled => (by cases isCancelled), fun isAcked => (by cases isAcked)⟩
  · intro context' isIt _
    rw [← Option.some.inj (found'.symm.trans isIt)]
    exact ⟨fun _ => calls, fun isAcked => (by cases isAcked)⟩

theorem Going.sent {state : EndpointRun} (going : Going state) {handle : Nat} {context : CoapRequestContext}
    (found : state.endpoint.find handle = some context) (isReady : context.state = .readyToSend) :
    Going ({ state with endpoint := state.endpoint.setState handle .waitingForAck }.log (.sent handle)) := by
  obtain ⟨member, isHandle⟩ := CoapEndpoint.find_eq found
  have known := going.walking.known context member
  have walking := @Walking.modify _ _ going.walking handle ({ · with state := .waitingForAck }) (fun _ => rfl)
  refine ⟨walking.log _, going.alone, CoapEndpoint.unique_modify (fun _ => rfl) going.unique, ?_⟩
  intro handle'
  by_cases isIt : handle' = handle
  · rw [isIt]
    exact (going.life handle).sent going.alone found (isHandle ▸ known) isReady
  · refine Life.log ?_ (EndpointEvent.neutral_of_ne (fun same => isIt same.symm))
    exact (going.life handle').withEndpoint (CoapEndpoint.find_modify_ne (fun _ => rfl) isIt) (Nat.le_refl _)

/-- The sink has failed. -/
theorem Going.failing {state : EndpointRun} (going : Going state) {handle : Nat} {context : CoapRequestContext}
    (found : state.endpoint.find handle = some context) (isReady : context.state = .readyToSend) (next : Option Nat) :
    Lives ((state.log (.error handle .coapSendFailure)).push (.failing handle ⟨next, false⟩)) := by
  obtain ⟨member, rfl⟩ := CoapEndpoint.find_eq found
  have silent := ((going.life context.handle).goesOn context found (by simp [going.alone])).waits (.inl isReady)
  apply lives_finish going.alone going.unique going.life going.walking.dirty
  · exact (going.walking.log _).push rfl (fun _ none => (nomatch none))
  · simp [Frame.finishes, EndpointEvent.handle]
  · simp [EndpointEvent.tellsListener, EndpointEvent.handle]
  · exact going.walking.known context member
  · exact ended_error silent _

/-- The listener was told of the failure of the sink. -/
theorem Lives.failed {state : EndpointRun} (lives : Lives state) {handle : Nat} {walk : Walk}
    (isTop : state.frames = [.failing handle walk]) : Going ({ state with frames := [] }.cancelRequest handle).1 := by
  unfold EndpointRun.cancelRequest
  cases found : state.endpoint.find handle with
  | none =>
      refine ⟨(lives.popped isTop rfl).2, rfl, lives.unique, ?_⟩
      intro handle'
      by_cases isIt : handle' = handle
      · rw [isIt]
        exact (lives.life handle).removed found rfl
      · exact (lives.life handle').pop isTop (by simpa [Frame.finishes] using fun same => isIt same.symm)
  | some context => exact lives.finished isTop rfl (by simp [Frame.finishes, Frame.handle])

/-- The last timeout of a request was told. -/
theorem Lives.timedOut {state : EndpointRun} (lives : Lives state) {handle : Nat} (isTop : state.frames = [.timingOut handle]) :
    Lives ({ state with frames := [] }.cancelRequest handle).1 := by
  have sound := lives.sound.popUnlocked isTop rfl
  have others : ∀ handle' ≠ handle, Life { state with frames := [] } handle' := by
    intro handle' other
    exact (lives.life handle').pop isTop (by simpa [Frame.finishes] using fun same => other same.symm)
  have notLocked : state.endpoint.locked = false := sound.locked
  have notCancelled := lives.clean notLocked
  unfold EndpointRun.cancelRequest
  cases found : state.endpoint.find handle with
  | none =>
      refine ⟨sound, Nat.zero_le _, lives.unique, fun _ => notCancelled, ?_⟩
      intro handle'
      by_cases isIt : handle' = handle
      · rw [isIt]
        exact (lives.life handle).removed found rfl
      · exact others handle' isIt
  | some context =>
      apply Lives.remove sound rfl lives.unique notCancelled others
      obtain ⟨gone, counter⟩ := state.endpoint.find_cancel notLocked handle
      exact (lives.life handle).removed gone counter

theorem Lives.resume {state state' : EndpointRun} (lives : Lives state) {result : PutResult}
    (resumes : state.resume result = .ok state') : Lives state' := by
  unfold EndpointRun.resume at resumes
  split at resumes
  · exact Except.ok.inj resumes ▸ lives
  · rename_i handle walk frames isTop
    obtain rfl := lives.top isTop
    obtain ⟨next, wasLocked⟩ := walk
    obtain ⟨rfl, -⟩ := lives.popped isTop rfl
    have going := lives.going isTop rfl (fun _ => rfl)
    obtain ⟨context, found, isReady⟩ := (lives.life handle).putting ⟨next, false⟩ (by rw [isTop]; exact List.mem_singleton_self _)
    have deref : { state with frames := [] }.deref handle = .ok context := by
      simp only [EndpointRun.deref, found]
    cases result with
    | wouldBlock => exact Except.ok.inj resumes ▸ going.release
    | failure =>
        simp only [deref, ok_bind] at resumes
        exact Except.ok.inj resumes ▸ going.failing found isReady next
    | success =>
        simp only [deref, ok_bind] at resumes
        exact Except.ok.inj resumes ▸ (going.sent found isReady).walked (EndpointRun.continueWalk_cases _ _)
  · rename_i handle walk frames isTop
    obtain rfl := lives.top isTop
    obtain ⟨next, wasLocked⟩ := walk
    obtain ⟨rfl, -⟩ := lives.popped isTop rfl
    exact Except.ok.inj resumes ▸ (lives.failed isTop).walked (EndpointRun.continueWalk_cases _ _)
  · rename_i handle reply wasLocked frames isTop
    obtain rfl := lives.top isTop
    obtain ⟨rfl, -⟩ := lives.popped isTop rfl
    have going := lives.going isTop rfl (fun _ => rfl)
    obtain ⟨context, found, isAcked⟩ := (lives.life handle).acking reply false (by rw [isTop]; exact List.mem_singleton_self _)
    have deref : { state with frames := [] }.deref handle = .ok context := by
      simp only [EndpointRun.deref, found]
    simp only [deref, ok_bind] at resumes
    have calls := ((going.life handle).goesOn context found (fun _ none => (nomatch none))).acked isAcked
    rw [(CoapEndpoint.find_eq found).2] at calls
    exact Except.ok.inj resumes ▸ going.notify found reply (.inl calls)
  · rename_i handle wasLocked frames isTop
    obtain rfl := lives.top isTop
    obtain ⟨rfl, -⟩ := lives.popped isTop rfl
    have going := lives.finished isTop rfl (by simp [Frame.finishes, Frame.handle])
    obtain ⟨context, -, deref⟩ := bind_ok resumes
    exact Except.ok.inj deref ▸ going.release
  · rename_i handle frames isTop
    obtain rfl := lives.top isTop
    exact Except.ok.inj resumes ▸ lives.timedOut isTop

/-- One step that disturbs no call-out. -/
theorem Lives.step {state state' : EndpointRun} (lives : Lives state) {step : EndpointStep}
    (undisturbed : state.Undisturbed step) (steps : state.step step = .ok state') : Lives state' := by
  rcases undisturbed with alone | ⟨result, rfl⟩
  · cases step with
    | sendRequest resendTimeout maxResendCount =>
        exact Except.ok.inj steps ▸ lives.sendRequest alone resendTimeout maxResendCount
    | cancelRequest handle => exact lives.cancelRequest alone steps
    | putData reply =>
        rw [← Except.ok.inj steps]
        unfold EndpointRun.putData
        split
        · exact lives
        · exact lives.onResponse alone reply
    | timerFired handle => exact Except.ok.inj steps ▸ lives.onTimerFired alone handle
    | canPut => exact Except.ok.inj steps ▸ lives.sendPendingRequests alone
    | setDataSink connected =>
        rw [← Except.ok.inj steps]
        have sound := lives.sound
        have connects : Lives { state with endpoint := { state.endpoint with connectionSink := connected } } :=
          ⟨⟨sound.locked, sound.wellLocked, sound.pointed, sound.known⟩, lives.alone, lives.unique, lives.clean,
            fun handle => (lives.life handle).withEndpoint rfl (Nat.le_refl _)⟩
        split
        · exact connects.sendPendingRequests alone
        · exact connects
    | resume result => exact lives.resume steps
  · exact lives.resume steps

theorem lives_create (tokenPrefix : List UInt8) (tokenCounter : Nat) (connectionSink : Bool) :
    Lives (EndpointRun.create tokenPrefix tokenCounter connectionSink) := by
  refine ⟨sound_create tokenPrefix tokenCounter connectionSink, Nat.zero_le _, List.nodup_nil,
    fun _ _ member => (nomatch member), ?_⟩
  intro handle
  exact ⟨.inl rfl, fun _ member => (nomatch member), fun _ found => (nomatch found), fun _ found => (nomatch found),
    fun _ member => (nomatch member), fun _ member => (nomatch member), fun _ _ member => (nomatch member),
    fun _ _ member => (nomatch member)⟩

theorem Lives.run {state : EndpointRun} (lives : Lives state) {steps : List EndpointStep}
    (undisturbed : state.Permits EndpointRun.Undisturbed steps) :
    ∃ state', state.run steps = .ok state' ∧ Lives state' := by
  induction steps generalizing state with
  | nil => exact ⟨state, rfl, lives⟩
  | cons step steps ih =>
      obtain ⟨state', isStep, -⟩ := lives.sound.step step
      unfold EndpointRun.run at ih ⊢
      rw [List.foldlM_cons, isStep]
      exact ih (lives.step undisturbed.1 isStep) (undisturbed.2 state' isStep)

end GoldenGate.Coap
