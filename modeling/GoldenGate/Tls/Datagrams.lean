import GoldenGate.Tls.Dtls
import Mathlib.Data.List.Chain

/-! # Datagrams through DTLS

Whatever the TLS library does, and whenever the sinks refuse: no datagram of the library is lost, sent twice or out of
order, the library receives the bytes that came from the transport, and the user gets what the library has read. The
listener for events sees each state that the object is in.
-/

namespace GoldenGate.Tls

open Memory Dialogues

/-- What the library can still receive of the datagram that came in last. -/
def TransportSide.unread (self : TransportSide) : List UInt8 := (self.pendingIn.getD []).drop self.pendingInOffset

namespace DtlsProtocol

variable {σ α : Type} {ssl : Ssl σ} {turns : Nat} {dtls before after : DtlsProtocol σ}

/-! ## What everything keeps -/

/-- Nothing is lost between the two ends of the object. -/
structure Lossless (dtls : DtlsProtocol σ) : Prop where
  sent : dtls.record.sent = dtls.record.delivered ++ dtls.transportSide.pendingOut.toList
  arrived : dtls.record.arrived.flatten = dtls.record.received ++ dtls.transportSide.unread
  offset : dtls.transportSide.pendingInOffset ≤ (dtls.transportSide.pendingIn.getD []).length
  read : dtls.record.read = dtls.record.handed.map Handed.data ++ dtls.userSide.pendingOut.toList
  accepted : ∀ handed ∈ dtls.record.handed, handed.result ≠ .error .wouldBlock

/-- What has come in and gone out, and what waits. -/
def traffic (self : DtlsProtocol σ) : Record × Option (List UInt8) × Option (List UInt8) × Nat × Option (List UInt8) :=
  ({ self.record with events := [] }, self.transportSide.pendingOut, self.transportSide.pendingIn,
    self.transportSide.pendingInOffset, self.userSide.pendingOut)

/-- The state, the errors and the parameters of the object are of no account. -/
theorem Lossless.of_traffic (lossless : Lossless before) (same : after.traffic = before.traffic) : Lossless after := by
  unfold traffic at same
  simp only [Prod.mk.injEq, Record.mk.injEq] at same
  obtain ⟨⟨sent, delivered, arrived, received, read, handed, -⟩, pendingOut, pendingIn, offset, userPendingOut⟩ := same
  constructor
  · rw [sent, delivered, pendingOut]
    exact lossless.sent
  · unfold TransportSide.unread
    rw [arrived, received, pendingIn, offset]
    exact lossless.arrived
  · rw [pendingIn, offset]
    exact lossless.offset
  · rw [read, handed, userPendingOut]
    exact lossless.read
  · rw [handed]
    exact lossless.accepted

/-- The parts of the object that the flow of data does not touch. -/
structure SameControl (before after : DtlsProtocol σ) : Prop where
  state : after.state = before.state
  role : after.role = before.role
  lastError : after.lastError = before.lastError
  inAdvance : after.inAdvance = before.inAdvance
  events : after.record.events = before.record.events
  transportSink : after.transportSide.sink.isSome = before.transportSide.sink.isSome
  userSink : after.userSide.sink.isSome = before.userSide.sink.isSome

theorem SameControl.refl (dtls : DtlsProtocol σ) : SameControl dtls dtls := ⟨rfl, rfl, rfl, rfl, rfl, rfl, rfl⟩

theorem SameControl.trans {last : DtlsProtocol σ} (first : SameControl before after) (second : SameControl after last) :
    SameControl before last :=
  ⟨second.state.trans first.state, second.role.trans first.role, second.lastError.trans first.lastError,
    second.inAdvance.trans first.inAdvance, second.events.trans first.events,
    second.transportSink.trans first.transportSink, second.userSink.trans first.userSink⟩

theorem SameControl.userThere (same : SameControl before after) (there : before.userSide.sink ≠ none) :
    after.userSide.sink ≠ none := by
  rw [← Option.isSome_iff_ne_none, same.userSink, Option.isSome_iff_ne_none]
  exact there

/-- Data has flowed from one state of the object to another one. -/
structure Flows (before after : DtlsProtocol σ) : Prop where
  lossless : Lossless after
  same : SameControl before after

theorem Flows.trans {last : DtlsProtocol σ} (first : Flows before after) (second : Flows after last) : Flows before last :=
  ⟨second.lossless, first.same.trans second.same⟩

theorem Lossless.flows (lossless : Lossless dtls) : Flows dtls dtls := ⟨lossless, .refl dtls⟩

/-- Data has flowed on the transport side only. -/
structure Works (before after : DtlsProtocol σ) : Prop extends Flows before after where
  userSide : after.userSide = before.userSide

theorem Works.trans {last : DtlsProtocol σ} (first : Works before after) (second : Works after last) : Works before last :=
  ⟨first.toFlows.trans second.toFlows, second.userSide.trans first.userSide⟩

theorem Lossless.works (lossless : Lossless dtls) : Works dtls dtls := ⟨lossless.flows, rfl⟩

theorem Lossless.createBuffer_works (lossless : Lossless dtls) : Works dtls dtls.createBuffer.1 :=
  ⟨⟨lossless.of_traffic rfl, ⟨rfl, rfl, rfl, rfl, rfl, rfl, rfl⟩⟩, rfl⟩

/-! ## The library at work -/

theorem transportTryToFlush_works (lossless : Lossless dtls)
    (there : dtls.transportSide.pendingOut ≠ none → dtls.transportSide.sink ≠ none) :
    ∃ after, dtls.transportTryToFlush = .ok after ∧ Works dtls after := by
  unfold transportTryToFlush
  cases pending : dtls.transportSide.pendingOut with
  | none => exact ⟨dtls, rfl, lossless.works⟩
  | some data =>
      cases isSink : dtls.transportSide.sink with
      | none => exact absurd isSink (there (by simp [pending]))
      | some sink =>
          dsimp only
          obtain ⟨sink', result⟩ := sink.putData
          have sent := lossless.sent
          rw [pending] at sent
          cases result with
          | ok _ =>
              refine ⟨_, rfl, ⟨⟨?_, lossless.arrived, lossless.offset, lossless.read, lossless.accepted⟩, ?_⟩, rfl⟩
              · rw [sent]
                exact (List.append_nil _).symm
              · exact ⟨rfl, rfl, rfl, rfl, rfl, by rw [isSink]; rfl, rfl⟩
          | error e =>
              refine ⟨_, rfl, ⟨⟨?_, lossless.arrived, lossless.offset, lossless.read, lossless.accepted⟩, ?_⟩, rfl⟩
              · rw [sent, pending]
              · exact ⟨rfl, rfl, rfl, rfl, rfl, by rw [isSink]; rfl, rfl⟩

/-- A datagram is sent, or it is not taken from the library. -/
theorem send_works (lossless : Lossless dtls) (buffer : List UInt8) :
    ∃ after result, dtls.send buffer = .ok (after, result) ∧ Works dtls after := by
  unfold send
  by_cases noSink : dtls.transportSide.sink.isNone = true
  · exact ⟨dtls, .ok 0, if_pos noSink, lossless.works⟩
  rw [if_neg noSink]
  by_cases nothing : buffer.length = 0
  · exact ⟨dtls, .ok 0, if_pos nothing, lossless.works⟩
  rw [if_neg nothing]
  cases pending : dtls.transportSide.pendingOut with
  | some data => exact ⟨dtls, .error .wantWrite, rfl, lossless.works⟩
  | none =>
      have sent := lossless.sent
      rw [pending] at sent
      by_cases noMemory : ¬ dtls.createBuffer.2 = true
      · exact ⟨dtls.createBuffer.1, .error .allocFailed, if_pos noMemory, lossless.createBuffer_works⟩
      let taken := { dtls.createBuffer.1 with
        transportSide := { dtls.transportSide with pendingOut := some buffer }
        record := { dtls.record with sent := dtls.record.sent ++ [buffer] } }
      have lossless' : Lossless taken := by
        refine ⟨?_, lossless.arrived, lossless.offset, lossless.read, lossless.accepted⟩
        change dtls.record.sent ++ [buffer] = dtls.record.delivered ++ [buffer]
        rw [sent]
        exact congrArg (· ++ [buffer]) (List.append_nil _)
      obtain ⟨after, flushes, works⟩ := transportTryToFlush_works lossless' fun _ isNone => noSink (Option.isNone_iff_eq_none.mpr isNone)
      have same := works.same
      refine ⟨after, .ok buffer.length, ?_, ⟨works.lossless, ⟨same.state, same.role, same.lastError, same.inAdvance,
        same.events, same.transportSink, same.userSink⟩⟩, works.userSide⟩
      refine (if_neg noMemory).trans ?_
      change (taken.transportTryToFlush >>= fun dtls => pure (dtls, Except.ok buffer.length) :
        Access (DtlsProtocol σ × Except SslError Nat)) = _
      rw [flushes]
      rfl

/-- The library receives the next bytes of what came in. -/
theorem receive_works (lossless : Lossless dtls) (bufferSize : Nat) :
    ∃ after result, dtls.receive bufferSize = .ok (after, result) ∧ Works dtls after := by
  unfold receive
  cases pending : dtls.transportSide.pendingIn with
  | none => exact ⟨dtls, .error .wantRead, rfl, lossless.works⟩
  | some pendingIn =>
      have offset := lossless.offset
      have arrived := lossless.arrived
      unfold TransportSide.unread at arrived
      rw [pending, Option.getD_some] at offset arrived
      dsimp only
      generalize dtls.transportSide.pendingInOffset = start at *
      have few : min bufferSize (pendingIn.length - start) ≤ pendingIn.length - start := Nat.min_le_right _ _
      generalize min bufferSize (pendingIn.length - start) = size at *
      have loads : loadBytes pendingIn start size = .ok ((pendingIn.drop start).take size) := if_pos (by omega)
      -- the bytes that are copied, and those behind them
      have split : pendingIn.drop start = (pendingIn.drop start).take size ++ pendingIn.drop (start + size) := by
        rw [← List.drop_drop, List.take_append_drop]
      rw [assert_of offset, ok_bind, loads, ok_bind]
      by_cases all : start + size = pendingIn.length
      · rw [if_pos all]
        refine ⟨_, _, rfl, ⟨⟨lossless.sent, ?_, Nat.zero_le _, lossless.read, lossless.accepted⟩,
          ⟨rfl, rfl, rfl, rfl, rfl, rfl, rfl⟩⟩, rfl⟩
        rw [List.drop_eq_nil_of_le all.ge, List.append_nil] at split
        change dtls.record.arrived.flatten = (dtls.record.received ++ (pendingIn.drop start).take size) ++ []
        rw [arrived, ← split, List.append_nil]
      · rw [if_neg all]
        refine ⟨_, _, rfl, ⟨⟨lossless.sent, ?_, ?_, lossless.read, lossless.accepted⟩,
          ⟨rfl, rfl, rfl, rfl, rfl, rfl, rfl⟩⟩, rfl⟩
        · unfold TransportSide.unread
          dsimp only
          rw [pending, Option.getD_some, arrived, List.append_assoc, ← split]
        · dsimp only
          rw [pending, Option.getD_some]
          omega

/-- Whatever the library asks for, and whatever it makes of the answers. -/
theorem call_works (lossless : Lossless dtls) (function : Talk (σ × α)) :
    ∃ after result, dtls.call function = .ok (after, result) ∧ Works dtls after := by
  have keeps : ∀ question host, Works dtls host →
      ∃ host' reply, answer question host = .ok (host', reply) ∧ Works dtls host' := by
    intro question host works
    cases question with
    | send buffer =>
        obtain ⟨after, result, sends, works'⟩ := send_works works.lossless buffer
        exact ⟨after, result, sends, works.trans works'⟩
    | receive bufferSize =>
        obtain ⟨after, result, receives, works'⟩ := receive_works works.lossless bufferSize
        exact ⟨after, result, receives, works.trans works'⟩
  obtain ⟨after, ⟨sslContext, result⟩, talks, works⟩ := Dialogue.talk_keeps keeps function lossless.works
  have kept := works.lossless
  have same := works.same
  refine ⟨{ after with sslContext := sslContext }, result, ?_, ⟨kept.of_traffic rfl,
    ⟨same.state, same.role, same.lastError, same.inAdvance, same.events, same.transportSink, same.userSink⟩⟩, works.userSide⟩
  unfold call
  rw [talks]
  rfl

/-! ## The user side -/

theorem userTryToFlush_flows (lossless : Lossless dtls) (there : dtls.userSide.sink ≠ none) :
    ∃ after, dtls.userTryToFlush = .ok after ∧ Flows dtls after := by
  unfold userTryToFlush
  cases pending : dtls.userSide.pendingOut with
  | none => exact ⟨dtls, rfl, lossless.flows⟩
  | some data =>
      dsimp only
      generalize (if dtls.transportSide.socketAddress.port ≠ 0 then some dtls.transportSide.socketAddress else none) = metadata
      cases isSink : dtls.userSide.sink with
      | none => exact absurd isSink there
      | some sink =>
          dsimp only
          obtain ⟨sink', result⟩ := sink.putData
          have read := lossless.read
          rw [pending] at read
          have handedOver (result : Except Error Unit) (notBlocked : result ≠ .error .wouldBlock) :
              Flows dtls { dtls with
                userSide := { dtls.userSide with sink := some sink', pendingOut := none }
                record := { dtls.record with handed := dtls.record.handed ++ [⟨data, metadata, result⟩] } } := by
            refine ⟨⟨lossless.sent, lossless.arrived, lossless.offset, ?_, ?_⟩, ⟨rfl, rfl, rfl, rfl, rfl, rfl, by rw [isSink]; rfl⟩⟩
            · rw [read]
              simp
            · intro handed member
              obtain old | new := List.mem_append.mp member
              · exact lossless.accepted handed old
              · rw [List.mem_singleton.mp new]
                exact notBlocked
          cases result with
          | ok _ => exact ⟨_, rfl, handedOver _ (by intro no; cases no)⟩
          | error e =>
              by_cases blocked : e = .wouldBlock
              · subst blocked
                refine ⟨_, rfl, ⟨lossless.sent, lossless.arrived, lossless.offset, ?_, lossless.accepted⟩,
                  ⟨rfl, rfl, rfl, rfl, rfl, rfl, by rw [isSink]; rfl⟩⟩
                rw [read, pending]
              · refine ⟨_, ?_, handedOver (.error e) (by simpa using blocked)⟩
                cases e <;> first | rfl | exact absurd rfl blocked

theorem pumpWhileAccepted_flows (lossless : Lossless dtls) (there : dtls.userSide.sink ≠ none) (rounds : Nat) :
    Safely (Flows dtls) (pumpWhileAccepted ssl rounds dtls) := by
  induction rounds generalizing dtls with
  | zero => exact .diverges
  | succ rounds ih =>
      unfold pumpWhileAccepted
      cases pending : dtls.userSide.pendingOut with
      | some data => exact lossless.flows
      | none =>
          have creates := lossless.createBuffer_works
          simp only [Option.isSome_none, Bool.false_eq_true, if_false]
          by_cases noMemory : ¬ dtls.createBuffer.2 = true
          · rw [if_pos noMemory]
            exact creates.toFlows
          obtain ⟨after, result, calls, works⟩ := call_works creates.lossless (ssl.read dtls.sslContext dtls.maxDatagramSize)
          replace works := creates.trans works
          rw [if_neg noMemory]
          change Safely (Flows dtls) (dtls.createBuffer.1.call (ssl.read dtls.sslContext dtls.maxDatagramSize) >>= _)
          rw [calls, ok_bind]
          dsimp only
          cases result with
          | error e => exact works.toFlows
          | ok data =>
              cases data with
              | nil => exact works.toFlows
              | cons first rest =>
                  have kept := works.lossless
                  have same := works.same
                  have read := kept.read
                  rw [works.userSide, pending, Option.toList_none, List.append_nil] at read
                  let taken := { after with
                    userSide := { after.userSide with pendingOut := some (first :: rest) }
                    record := { after.record with read := after.record.read ++ [first :: rest] } }
                  have takes : Flows dtls taken := by
                    refine ⟨⟨kept.sent, kept.arrived, kept.offset, ?_, kept.accepted⟩, ⟨same.state, same.role, same.lastError,
                      same.inAdvance, same.events, same.transportSink, same.userSink⟩⟩
                    exact congrArg (· ++ [first :: rest]) read
                  have there' := takes.same.userThere there
                  obtain ⟨last, flushes, flows⟩ := userTryToFlush_flows takes.lossless there'
                  change Safely (Flows dtls) (taken.userTryToFlush >>= pumpWhileAccepted ssl rounds)
                  rw [flushes]
                  exact (ih flows.lossless (flows.same.userThere there')).mono fun _ => (takes.trans flows).trans

/-- The user side takes up what there is to read. -/
theorem userPumpData_flows (lossless : Lossless dtls) : Safely (Flows dtls) (dtls.userPumpData ssl turns) := by
  unfold userPumpData
  by_cases noSink : dtls.userSide.sink.isNone = true
  · rw [if_pos noSink]
    exact lossless.flows
  have there : dtls.userSide.sink ≠ none := fun isNone => noSink (Option.isNone_iff_eq_none.mpr isNone)
  rw [if_neg noSink]
  obtain ⟨after, flushes, flows⟩ := userTryToFlush_flows lossless there
  rw [flushes, ok_bind]
  exact (pumpWhileAccepted_flows flows.lossless (flows.same.userThere there) turns).mono fun last => flows.trans

theorem userPutData_flows (lossless : Lossless dtls) (data : List UInt8) :
    ∃ after result, dtls.userPutData ssl data = .ok (after, result) ∧ Flows dtls after := by
  unfold userPutData
  by_cases failed : dtls.state = .error
  · exact ⟨dtls, _, if_pos failed, lossless.flows⟩
  rw [if_neg failed]
  by_cases outside : dtls.state ≠ .session
  · exact ⟨dtls, _, if_pos outside, lossless.flows⟩
  rw [if_neg outside]
  by_cases large : Int.bmod data.length (2 ^ 32) > Int.bmod (ssl.maxOutRecordPayload dtls.sslContext) (2 ^ 32)
  · exact ⟨dtls, _, if_pos large, lossless.flows⟩
  rw [if_neg large]
  by_cases pending : dtls.transportSide.pendingOut.isSome = true
  · exact ⟨dtls, _, if_pos pending, lossless.flows⟩
  rw [if_neg pending]
  obtain ⟨after, result, calls, works⟩ := call_works lossless (ssl.write dtls.sslContext data)
  rw [calls, ok_bind]
  cases result with
  | ok size => exact ⟨after, _, rfl, works.toFlows⟩
  | error e => cases e <;> exact ⟨after, _, rfl, works.toFlows⟩

theorem notifyUser_flows (lossless : Lossless dtls) : ∃ after, dtls.notifyUser ssl = .ok after ∧ Flows dtls after := by
  have puts (data : List (List UInt8)) : ∀ before : DtlsProtocol σ, Flows dtls before →
      ∃ after, data.foldlM (fun before data => Prod.fst <$> before.userPutData ssl data) before = .ok after ∧ Flows dtls after := by
    induction data with
    | nil => exact fun before flows => ⟨before, rfl, flows⟩
    | cons first rest ih =>
        intro before flows
        obtain ⟨between, result, putsFirst, flows'⟩ := @userPutData_flows σ ssl before flows.lossless first
        obtain ⟨after, putsRest, flows''⟩ := ih between (flows.trans flows')
        refine ⟨after, ?_, flows''⟩
        rw [List.foldlM_cons, putsFirst]
        exact putsRest
  unfold notifyUser
  by_cases hears : dtls.userSide.hasListener = true
  · rw [if_pos hears]
    apply puts
    exact ⟨lossless.of_traffic rfl, ⟨rfl, rfl, rfl, rfl, rfl, rfl, rfl⟩⟩
  · rw [if_neg hears]
    exact ⟨dtls, rfl, lossless.flows⟩

end DtlsProtocol

/-! ## The handshake -/

/-- The ways from one state to the next one. -/
inductive Moves : State → State → Prop where
  | begins : Moves .init .handshake
  | completes : Moves .handshake .session
  | fails : Moves .handshake .error
  | resets {state : State} : state ≠ .init → Moves state .init

namespace DtlsProtocol

variable {σ : Type} {ssl : Ssl σ} {turns : Nat} {dtls before after : DtlsProtocol σ}

/-- The listener has seen the states on the way to this one, and there is an error exactly in the state for it. -/
structure Trail (dtls : DtlsProtocol σ) : Prop where
  moves : List.IsChain Moves (.init :: dtls.record.events)
  last : (State.init :: dtls.record.events).getLast? = some dtls.state
  error : dtls.lastError = none ↔ dtls.state ≠ .error

theorem Trail.kept (trail : Trail before) (state : after.state = before.state)
    (lastError : after.lastError = before.lastError) (events : after.record.events = before.record.events) :
    Trail after := by
  constructor
  · rw [events]
    exact trail.moves
  · rw [events, state]
    exact trail.last
  · rw [lastError, state]
    exact trail.error

theorem Trail.same (trail : Trail before) (same : SameControl before after) : Trail after :=
  trail.kept same.state same.lastError same.events

/-- The object has moved to another state and says so. -/
theorem Trail.move (trail : Trail before) (moves : Moves before.state after.state)
    (events : after.record.events = before.record.events) (error : after.lastError = none ↔ after.state ≠ .error) :
    Trail after.emitStateChangeEvent := by
  have seen : after.emitStateChangeEvent.record.events = before.record.events ++ [after.state] := by
    rw [← events]
    rfl
  constructor
  · rw [seen, ← List.cons_append]
    apply List.isChain_append.mpr
    refine ⟨trail.moves, List.isChain_singleton _, ?_⟩
    intro last isLast next isNext
    rw [trail.last] at isLast
    cases isLast
    cases isNext
    exact moves
  · rw [seen, ← List.cons_append]
    exact List.getLast?_concat
  · exact error

/-- The object is in order, and its sink for the transport is still there if it was. -/
structure Sound (before after : DtlsProtocol σ) : Prop where
  lossless : Lossless after
  trail : Trail after
  transportSink : after.transportSide.sink.isSome = before.transportSide.sink.isSome

theorem Sound.trans {last : DtlsProtocol σ} (first : Sound before after) (second : Sound after last) : Sound before last :=
  ⟨second.lossless, second.trail, second.transportSink.trans first.transportSink⟩

theorem Flows.sound (flows : Flows before after) (trail : Trail before) : Sound before after :=
  ⟨flows.lossless, trail.same flows.same, flows.same.transportSink⟩

theorem reset_sound (lossless : Lossless dtls) (trail : Trail dtls) :
    Sound dtls (dtls.reset ssl).1 ∧ (dtls.reset ssl).1.inAdvance = dtls.inAdvance ∧
      ((dtls.reset ssl).2 = .ok () → (dtls.reset ssl).1.state = .init) := by
  unfold reset
  by_cases initial : dtls.state = .init
  · rw [if_pos initial]
    exact ⟨⟨lossless, trail, rfl⟩, rfl, fun _ => initial⟩
  rw [if_neg initial]
  obtain ⟨sslContext, result⟩ := ssl.sessionReset dtls.sslContext
  cases result with
  | error e =>
      refine ⟨⟨lossless.of_traffic rfl, trail.kept rfl rfl rfl, rfl⟩, rfl, ?_⟩
      intro no
      cases no
  | ok _ =>
      have moved : Trail (emitStateChangeEvent { dtls with sslContext := sslContext, lastError := none, state := .init }) :=
        trail.move (.resets initial) rfl (by simp)
      exact ⟨⟨lossless.of_traffic rfl, moved, rfl⟩, rfl, fun _ => rfl⟩

theorem restart_sound (lossless : Lossless dtls) (trail : Trail dtls) : Sound dtls (dtls.restart ssl) := by
  unfold restart
  by_cases failed : dtls.role = .server ∧ dtls.state = .error
  · rw [if_pos failed]
    obtain ⟨sound, -, initial⟩ := @reset_sound σ ssl dtls lossless trail
    generalize dtls.reset ssl = reset at *
    obtain ⟨after, result⟩ := reset
    cases result with
    | error e => exact sound
    | ok _ =>
        have initial : after.state = .init := initial rfl
        have noError : after.lastError = none := sound.trail.error.mpr (by rw [initial]; intro no; cases no)
        have again : Moves after.state .handshake := by
          rw [initial]
          exact .begins
        have moved : Trail (emitStateChangeEvent { after with state := .handshake }) :=
          sound.trail.move again rfl (by simp [noError])
        exact ⟨sound.lossless.of_traffic rfl, moved, sound.transportSink⟩
  · rw [if_neg failed]
    exact ⟨lossless, trail, rfl⟩

/-- One turn stops where the object is, or comes to the next state, of which the listener has not heard yet. -/
structure Turn (before after : DtlsProtocol σ) (stops : Bool) : Prop where
  lossless : Lossless after
  transportSink : after.transportSide.sink.isSome = before.transportSide.sink.isSome
  events : after.record.events = before.record.events
  error : after.lastError = none ↔ after.state ≠ .error
  moves : after.state = before.state ∨ stops = false ∧ Moves before.state after.state

theorem advance_turn (lossless : Lossless dtls) (trail : Trail dtls) :
    ∃ after stops, dtls.advance ssl = .ok (after, stops) ∧ Turn dtls after stops := by
  unfold advance
  have noError (ne : dtls.state ≠ .error) : dtls.lastError = none := trail.error.mpr ne
  cases state : dtls.state with
  | init =>
      have noError := noError (by rw [state]; intro no; cases no)
      have moves : Moves dtls.state .handshake := state ▸ .begins
      exact ⟨_, false, rfl, lossless.of_traffic rfl, rfl, rfl, by simp [noError], .inr ⟨rfl, moves⟩⟩
  | session => exact ⟨dtls, true, rfl, lossless, rfl, rfl, trail.error, .inl rfl⟩
  | error => exact ⟨dtls, true, rfl, lossless, rfl, rfl, trail.error, .inl rfl⟩
  | handshake =>
      have noError := noError (by rw [state]; intro no; cases no)
      by_cases isOver : ssl.handshakeOver dtls.sslContext = true
      · have opened : Lossless { dtls with state := .session } := lossless.of_traffic rfl
        obtain ⟨after, notifies, flows⟩ := @notifyUser_flows σ ssl _ opened
        have isSession : after.state = .session := flows.same.state
        have noError' : after.lastError = none := flows.same.lastError.trans noError
        have moves : Moves dtls.state after.state := by
          rw [state, isSession]
          exact .completes
        refine ⟨after, false, ?_, flows.lossless, flows.same.transportSink, flows.same.events, ?_, .inr ⟨rfl, moves⟩⟩
        · simp only [isOver, if_true, notifies, ok_bind, pure_ok]
        · simp [noError', isSession]
      · obtain ⟨after, result, calls, works⟩ := call_works lossless (ssl.handshakeStep dtls.sslContext)
        have noError' : after.lastError = none := works.same.lastError.trans noError
        have still : after.lastError = none ↔ after.state ≠ .error := by simp [noError', works.same.state, state]
        have stays (stops : Bool) : Turn dtls after stops :=
          ⟨works.lossless, works.same.transportSink, works.same.events, still, .inl works.same.state⟩
        have fails (e : TlsError) : Turn dtls { after with state := .error, lastError := some e } false :=
          ⟨works.lossless.of_traffic rfl, works.same.transportSink, works.same.events, by simp, .inr ⟨rfl, state ▸ .fails⟩⟩
        simp only [isOver, calls, ok_bind]
        cases result with
        | ok _ => exact ⟨after, false, rfl, stays false⟩
        | error e =>
            cases e with
            | wantRead | wantWrite => exact ⟨after, true, rfl, stays true⟩
            | allocFailed | fatalAlertMessage | unknownIdentity | illegalParameter | decodeError | badHsClientHello
              | badHsServerHello | other => exact ⟨_, false, rfl, fails _⟩

theorem advanceWhileMoving_sound (lossless : Lossless dtls) (trail : Trail dtls) (rounds : Nat) :
    Safely (fun after => Sound dtls after ∧ after.inAdvance = false) (advanceWhileMoving ssl rounds dtls) := by
  induction rounds generalizing dtls with
  | zero => exact .diverges
  | succ rounds ih =>
      unfold advanceWhileMoving
      obtain ⟨after, stops, advances, turn⟩ := @advance_turn σ ssl dtls lossless trail
      rw [advances, ok_bind]
      have stays (same : after.state = dtls.state) : Trail after := by
        refine ⟨turn.events ▸ trail.moves, ?_, turn.error⟩
        rw [turn.events, same]
        exact trail.last
      cases stops with
      | true =>
          obtain same | ⟨no, -⟩ := turn.moves
          · have trail' := stays same
            exact ⟨⟨turn.lossless.of_traffic rfl, trail'.kept rfl rfl rfl, turn.transportSink⟩, rfl⟩
          · cases no
      | false =>
          have told : Sound dtls (if dtls.state ≠ after.state then after.emitStateChangeEvent else after) := by
            by_cases moved : dtls.state ≠ after.state
            · rw [if_pos moved]
              obtain same | ⟨-, moves⟩ := turn.moves
              · exact absurd same.symm moved
              · exact ⟨turn.lossless.of_traffic rfl, trail.move moves turn.events turn.error, turn.transportSink⟩
            · rw [if_neg moved]
              exact ⟨turn.lossless, stays (not_not.mp moved).symm, turn.transportSink⟩
          have restarted := told.trans (@restart_sound σ ssl _ told.lossless told.trail)
          exact (ih restarted.lossless restarted.trail).mono fun last sound => ⟨restarted.trans sound.1, sound.2⟩

/-! ## Between two calls -/

/-- The object is in order, and not in the middle of a handshake step. -/
structure Idle (dtls : DtlsProtocol σ) : Prop where
  lossless : Lossless dtls
  trail : Trail dtls
  inAdvance : dtls.inAdvance = false

/-- The object is idle again, and its sink for the transport is still there. -/
def IdleAgain (before after : DtlsProtocol σ) : Prop :=
  Idle after ∧ after.transportSide.sink.isSome = before.transportSide.sink.isSome

theorem Flows.idle (flows : Flows before after) (idle : Idle before) : IdleAgain before after :=
  ⟨⟨flows.lossless, idle.trail.same flows.same, flows.same.inAdvance.trans idle.inAdvance⟩, flows.same.transportSink⟩

theorem advanceHandshake_idle (idle : Idle dtls) : Safely (IdleAgain dtls) (dtls.advanceHandshake ssl turns) := by
  have start : Lossless { dtls with inAdvance := true } := idle.lossless.of_traffic rfl
  have trail : Trail { dtls with inAdvance := true } := idle.trail.kept rfl rfl rfl
  unfold advanceHandshake
  rw [if_neg (by rw [idle.inAdvance]; exact Bool.false_ne_true)]
  apply (advanceWhileMoving_sound start trail turns).mono
  rintro after ⟨sound, inAdvance⟩
  exact ⟨⟨sound.lossless, sound.trail, inAdvance⟩, sound.transportSink⟩

theorem userPumpData_idle (idle : Idle dtls) : Safely (IdleAgain dtls) (dtls.userPumpData ssl turns) :=
  (userPumpData_flows idle.lossless).mono fun _ flows => flows.idle idle

theorem notifyUser_idle (idle : Idle dtls) : Safely (IdleAgain dtls) (dtls.notifyUser ssl) := by
  obtain ⟨after, notifies, flows⟩ := @notifyUser_flows σ ssl dtls idle.lossless
  rw [notifies]
  exact flows.idle idle

theorem whenIn_idle (idle : Idle dtls) (state : State) {does : DtlsProtocol σ → Access (DtlsProtocol σ)}
    (keeps : Safely (IdleAgain dtls) (does dtls)) : Safely (IdleAgain dtls) (dtls.whenIn state does) := by
  unfold whenIn
  by_cases is : dtls.state = state
  · rw [if_pos is]
    exact keeps
  · rw [if_neg is]
    exact ⟨idle, rfl⟩

theorem flushWhilePending_idle (idle : Idle dtls) (there : dtls.transportSide.sink.isSome = true) (rounds : Nat) :
    Safely Idle (flushWhilePending ssl turns rounds dtls) := by
  induction rounds generalizing dtls with
  | zero => exact .diverges
  | succ rounds ih =>
      unfold flushWhilePending
      by_cases nothing : dtls.transportSide.pendingOut.isNone = true
      · rw [if_pos nothing]
        exact idle
      rw [if_neg nothing]
      obtain ⟨flushed, flushes, works⟩ := transportTryToFlush_works idle.lossless fun _ => Option.isSome_iff_ne_none.mp there
      have idleFlushed := works.toFlows.idle idle
      rw [flushes, ok_bind]
      by_cases still : flushed.transportSide.pendingOut.isSome = true
      · rw [if_pos still]
        exact idleFlushed.1
      rw [if_neg still]
      apply (whenIn_idle idleFlushed.1 .handshake (advanceHandshake_idle idleFlushed.1)).andThen
      intro advanced idleAdvanced
      apply (whenIn_idle idleAdvanced.1 .session (notifyUser_idle idleAdvanced.1)).andThen
      intro notified idleNotified
      have sink := (idleNotified.2.trans idleAdvanced.2).trans idleFlushed.2
      exact ih idleNotified.1 (sink.trans there)

theorem transportPutData_idle (idle : Idle dtls) (data : List UInt8) (metadata : Option BufferMetadata) :
    Safely (fun result => Idle result.1) (dtls.transportPutData ssl turns data metadata) := by
  obtain ⟨remembered, remembers, lossless, trail, inAdvance⟩ :
      ∃ remembered, dtls.rememberAddress metadata = remembered ∧ Lossless remembered ∧ Trail remembered ∧
        remembered.inAdvance = false := by
    unfold rememberAddress
    split
    · split
      · exact ⟨_, rfl, idle.lossless.of_traffic rfl, idle.trail.kept rfl rfl rfl, idle.inAdvance⟩
      · exact ⟨dtls, rfl, idle.lossless, idle.trail, idle.inAdvance⟩
    · exact ⟨dtls, rfl, idle.lossless, idle.trail, idle.inAdvance⟩
  unfold transportPutData
  rw [remembers]
  dsimp only
  cases pending : remembered.transportSide.pendingIn with
  | some old => exact ⟨lossless, trail, inAdvance⟩
  | none =>
      have arrived := lossless.arrived
      unfold TransportSide.unread at arrived
      rw [pending, Option.getD_none, List.drop_nil, List.append_nil] at arrived
      let taken := { remembered with
        transportSide := { remembered.transportSide with pendingIn := some data, pendingInOffset := 0 }
        record := { remembered.record with arrived := remembered.record.arrived ++ [data] } }
      have idleTaken : Idle taken := by
        refine ⟨⟨lossless.sent, ?_, Nat.zero_le _, lossless.read, lossless.accepted⟩, trail.kept rfl rfl rfl,
          inAdvance⟩
        change (remembered.record.arrived ++ [data]).flatten = remembered.record.received ++ data
        rw [List.flatten_append, arrived, List.flatten_singleton]
      apply (whenIn_idle idleTaken .handshake (advanceHandshake_idle idleTaken)).andThen
      intro advanced idleAdvanced
      apply (whenIn_idle idleAdvanced.1 .session (userPumpData_idle idleAdvanced.1)).andThen
      intro pumped idlePumped
      exact idlePumped.1

theorem startHandshake_idle (idle : Idle dtls) :
    Safely (fun result => Idle result.1) (dtls.startHandshake ssl turns) := by
  unfold startHandshake
  by_cases started : dtls.state ≠ .init
  · rw [if_pos started]
    exact idle
  rw [if_neg started]
  have initial : dtls.state = .init := not_not.mp started
  have noError : dtls.lastError = none := idle.trail.error.mpr (by rw [initial]; intro no; cases no)
  have moves : Moves dtls.state .handshake := by
    rw [initial]
    exact .begins
  have begun : Idle (emitStateChangeEvent { dtls with state := .handshake }) :=
    ⟨idle.lossless.of_traffic rfl, idle.trail.move moves rfl (by simp [noError]), idle.inAdvance⟩
  apply (advanceHandshake_idle begun).andThen
  exact fun advanced idleAdvanced => idleAdvanced.1

/-! ## Runs -/

theorem step_idle (idle : Idle dtls) (next : Step) : Safely Idle (dtls.step ssl turns next) := by
  cases next with
  | userPutData data =>
      obtain ⟨after, result, puts, flows⟩ := @userPutData_flows σ ssl dtls idle.lossless data
      change Safely Idle (Prod.fst <$> dtls.userPutData ssl data)
      rw [puts]
      exact (flows.idle idle).1
  | userSetListener hasListener =>
      exact ⟨idle.lossless.of_traffic rfl, idle.trail.kept rfl rfl rfl, idle.inAdvance⟩
  | userSetDataSink sink =>
      have set : Idle { dtls with userSide := { dtls.userSide with sink := sink } } :=
          ⟨idle.lossless.of_traffic rfl, idle.trail.kept rfl rfl rfl, idle.inAdvance⟩
      change Safely Idle (dtls.userSetDataSink ssl turns sink)
      unfold userSetDataSink
      dsimp only
      by_cases pumps : sink.isSome = true ∧ dtls.state = .session
      · rw [if_pos pumps]
        exact (userPumpData_idle set).mono fun _ => And.left
      · rw [if_neg pumps]
        exact set
  | userOnCanPut => exact (userPumpData_idle idle).mono fun _ => And.left
  | transportPutData data metadata => exact (transportPutData_idle idle data metadata).andThen fun _ => id
  | transportSetDataSink sink =>
      exact ⟨idle.lossless.of_traffic rfl, idle.trail.kept rfl rfl rfl, idle.inAdvance⟩
  | transportOnCanPut =>
      change Safely Idle (dtls.transportOnCanPut ssl turns)
      unfold transportOnCanPut
      by_cases there : dtls.transportSide.sink.isSome = true
      · rw [if_pos there]
        exact flushWhilePending_idle idle there turns
      · rw [if_neg there]
        exact idle
  | startHandshake => exact (startHandshake_idle idle).andThen fun _ => id
  | reset =>
      obtain ⟨sound, inAdvance, -⟩ := @reset_sound σ ssl dtls idle.lossless idle.trail
      exact ⟨sound.lossless, sound.trail, inAdvance.trans idle.inAdvance⟩

theorem create_idle {role : Role} {maxDatagramSize : Nat} {sslContext : σ} {memory : List Bool}
    {puts : List (List (List UInt8))} (creates : create role maxDatagramSize sslContext memory puts = .ok dtls) : Idle dtls := by
  unfold create at creates
  split at creates
  case isTrue => cases creates
  case isFalse =>
      cases creates
      refine ⟨⟨rfl, rfl, Nat.le_refl 0, rfl, ?_⟩, ⟨List.isChain_singleton _, rfl, by simp⟩, rfl⟩
      intro handed member
      cases member

theorem run_idle {role : Role} {maxDatagramSize : Nat} {sslContext : σ} {memory : List Bool}
    {puts : List (List (List UInt8))} (creates : create role maxDatagramSize sslContext memory puts = .ok dtls) (steps : List Step) :
    Safely Idle (dtls.run ssl turns steps) :=
  Safely.foldlM (fun _ next idle => step_idle idle next) (create_idle creates) steps

/-- Each datagram that the library has sent has been put into the transport once and in order, but for the last one, which
    waits. The library has received the bytes of the datagrams that were taken from the transport, in order, but for the
    rest of the last one. What it has read for the user has been put there once and in order, but for the last one, which
    waits, and no part was let go of because the user was not ready. -/
theorem run_lossless {role : Role} {maxDatagramSize : Nat} {sslContext : σ} {memory : List Bool}
    {puts : List (List (List UInt8))} (creates : create role maxDatagramSize sslContext memory puts = .ok dtls) (steps : List Step) :
    Safely Lossless (dtls.run ssl turns steps) := by
  apply (run_idle creates steps).mono
  intro after idle
  exact idle.lossless

/-- The listener has seen the object go from state to state up to the one that it is in, only along the ways that there are;
    the last error is there in the state for it and nowhere else; and no handshake is left half advanced. -/
theorem run_trail {role : Role} {maxDatagramSize : Nat} {sslContext : σ} {memory : List Bool}
    {puts : List (List (List UInt8))} (creates : create role maxDatagramSize sslContext memory puts = .ok dtls) (steps : List Step) :
    Safely (fun after => Trail after ∧ after.inAdvance = false) (dtls.run ssl turns steps) := by
  apply (run_idle creates steps).mono
  intro after idle
  exact ⟨idle.trail, idle.inAdvance⟩

/-- A library without a secret: its handshake is one datagram, after which it passes everything on. -/
def relay : Ssl Bool where
  handshakeStep := fun _ => .ask (.send [22]) fun (sent : Except SslError Nat) => .done (true, sent.map fun _ => ())
  handshakeOver := id
  read := fun ended size => .ask (.receive size) fun received => .done (ended, received)
  write := fun ended data => .ask (.send data) fun sent => .done (ended, sent)
  sessionReset := fun _ => (false, .ok ())
  maxOutRecordPayload := fun _ => 1024

/-- A transport that refuses at first, and a user that gets two datagrams of which it refuses the first one for now. -/
def relayed : List Step :=
  [.transportSetDataSink (some ⟨[.error .wouldBlock]⟩), .startHandshake, .transportOnCanPut,
    .userSetDataSink (some ⟨[.error .wouldBlock]⟩), .transportPutData [1, 2] none, .userOnCanPut, .userPutData [3],
    .transportPutData [4] none]

theorem relayed_ends : ∃ dtls : DtlsProtocol Bool,
    create .client 512 false [true, false] [] = .ok dtls ∧ (dtls.run relay 8 relayed).isOk = true := by
  refine ⟨_, rfl, ?_⟩
  decide +kernel

theorem run_lossless_relayed : ∃ dtls : DtlsProtocol Bool, create .client 512 false [true, false] [] = .ok dtls ∧
    (dtls.run relay 8 relayed).isOk = true ∧ Safely Lossless (dtls.run relay 8 relayed) := by
  obtain ⟨dtls, creates, ends⟩ := relayed_ends
  exact ⟨dtls, creates, ends, run_lossless creates relayed⟩

theorem run_trail_relayed : ∃ dtls : DtlsProtocol Bool, create .client 512 false [true, false] [] = .ok dtls ∧
    (dtls.run relay 8 relayed).isOk = true ∧
      Safely (fun after => Trail after ∧ after.inAdvance = false) (dtls.run relay 8 relayed) := by
  obtain ⟨dtls, creates, ends⟩ := relayed_ends
  exact ⟨dtls, creates, ends, run_trail creates relayed⟩

end DtlsProtocol

end GoldenGate.Tls
