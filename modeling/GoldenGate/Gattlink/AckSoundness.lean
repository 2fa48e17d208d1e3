import GoldenGate.Gattlink.Delivery
import GoldenGate.Gattlink.Traffic

/-! # What is acked

Between two endpoints in a session, every ack on a wire is for a payload that was accepted,
with all payloads before it. In a window of more than half of the serial numbers a payload
that is ahead can look like an old one; before anything was accepted, it would be acked.
-/

namespace GoldenGate.Gattlink

open Memory GoBackN Endpoint

/-! ## Packets and their parts -/

theorem ackOf_encode {ack : Option Nat} {payload : Option (Nat × List UInt8)} :
    ackOf (Flight.packet ack payload).encode = ack.map (· % snWindowSize) := by
  cases ack with
  | some a =>
      have notControl := @encode_notControl (some a) payload (by simp [Flight.encode])
      have type := encodeAck_type a
      have psn := encodeAck_psn a
      simp only [Flight.encode, Option.map_some, Option.toList_some, List.cons_append, List.nil_append,
        List.headD_cons] at notControl ⊢
      unfold ackOf
      dsimp only
      rw [if_pos ⟨notControl, type⟩, psn]
  | none =>
      cases payload with
      | none => rfl
      | some d =>
          have type := encodeData_type d.1
          simp only [Flight.encode, Option.map_none, Option.toList_none, List.nil_append, Option.map_some,
            Option.getD_some, encodeData]
          unfold ackOf
          dsimp only
          rw [if_neg fun both => type both.2]

theorem payloadOf_encode {ack : Option Nat} {payload : Option (Nat × List UInt8)} :
    payloadOf (Flight.packet ack payload).encode = payload.map fun d => (d.1 % snWindowSize, d.2) := by
  cases ack with
  | some a =>
      have type := encodeAck_type a
      cases payload with
      | none => simp [Flight.encode, payloadOf, type]
      | some d =>
          have psn := encodeData_psn d.1
          simp [Flight.encode, payloadOf, type, encodeData, psn]
  | none =>
      cases payload with
      | none => rfl
      | some d =>
          have type := encodeData_type d.1
          have psn := encodeData_psn d.1
          simp [Flight.encode, payloadOf, type, encodeData, psn]

namespace Network

/-! ## Acks -/

/-- Every ack that the first endpoint has sent is for a payload that it accepted, the last one
    with that serial number; and it was accepted with all payloads of the peer before it. -/
def AcksSound (net : Network) : Prop :=
  let accepted := acceptedPayloads net.a.log
  ∀ packet ∈ net.a.wire, ∀ p ∈ ackOf packet, ∃ i, p = i % snWindowSize ∧ i < accepted.length ∧
    accepted.length ≤ i + snWindowSize ∧ (accepted.take (i + 1)).flatten <+: queuedBytes net.b.log

/-- Before the first endpoint has accepted anything, it takes no payload for an old one. -/
def TakesInOrder (net : Network) : Action → Prop
  | .deliver _ => acceptedPayloads net.a.log = [] → ∀ packet ∈ net.b.wire.head?, packet.length ≤ maxPacketSize →
      ∀ d ∈ payloadOf packet, d.1 = net.a.protocol.in_.nextExpectedDataPsn ∨ net.a.Unexpected d.1
  | _ => True

instance : ∀ (net : Network) (action : Action), Decidable (net.TakesInOrder action)
  | _, .deliver _ => inferInstanceAs (Decidable (_ → ∀ _ ∈ _, _ → ∀ _ ∈ _, _ ∨ _))
  | _, .call _ | _, .drop _ | _, .ackTimer | _, .retransmitTimer _ => isTrue trivial

/-- That holds for either endpoint, in every step of a run. -/
def RunsInOrder (turns : Nat) (net : Network) : List (Party × Action) → Prop
  | [] => True
  | step :: steps =>
      (match step with
        | (.a, action) => net.TakesInOrder action
        | (.b, action) => net.swap.TakesInOrder action) ∧
      ∀ net', net.step turns step = .ok net' → RunsInOrder turns net' steps

instance decidableRunsInOrder (turns : Nat) : ∀ (net : Network) (steps : List (Party × Action)),
    Decidable (net.RunsInOrder turns steps)
  | _, [] => isTrue trivial
  | net, step :: steps =>
      have : Decidable (match step with
          | (.a, action) => net.TakesInOrder action
          | (.b, action) => net.swap.TakesInOrder action) :=
        match step with
        | (.a, action) => inferInstanceAs (Decidable (net.TakesInOrder action))
        | (.b, action) => inferInstanceAs (Decidable (net.swap.TakesInOrder action))
      have := fun (net' : Network) => decidableRunsInOrder turns net' steps
      inferInstanceAs (Decidable (_ ∧ _))

theorem InSession.acksSound {net : Network} {ab ba : Nat} (inSession : net.InSession ab ba) (small : ba < snWindowSize) :
    net.AcksSound := by
  have delivers : (acceptedPayloads net.a.log).flatten <+: queuedBytes net.b.log := inSession.swap.delivers.1
  obtain ⟨cfg, cfg', out, in_, flights, flights', session⟩ := inSession
  have valid := session.validIn
  have accepted : acceptedPayloads net.a.log = in_.sent.take in_.received := session.a.receives.accepted
  have length : (acceptedPayloads net.a.log).length = in_.received := by
    rw [accepted, List.length_take, Nat.min_eq_left valid.received_le]
  rintro packet member p isAck
  rw [session.a.wire] at member
  obtain ⟨flight, isFlight, rfl⟩ := List.mem_map.mp member
  cases flight with
  | control bytes => exact (session.packets _ isFlight).elim
  | packet ack payload =>
      rw [ackOf_encode] at isAck
      obtain ⟨a, rfl, rfl⟩ := Option.map_eq_some_iff.mp isAck
      have isAck : a ∈ in_.acks := by
        rw [session.a.acks]
        exact List.mem_filterMap.mpr ⟨_, isFlight, rfl⟩
      obtain ⟨base, acked⟩ := valid.ack a isAck
      have caughtUp := session.caughtUpIn
      have received := valid.received_le
      have sent := valid.sent_le
      refine ⟨a, rfl, by omega, by omega, List.IsPrefix.trans ?_ delivers⟩
      conv_rhs => rw [← List.take_append_drop (a + 1) (acceptedPayloads net.a.log), List.flatten_append]
      exact List.prefix_append _ _

/-- Whatever happens at the first endpoint, if it takes its payloads in order. -/
theorem act_inSession_of_takesInOrder {turns ab ba : Nat} (abSmall : ab < snWindowSize) (baSmall : ba < snWindowSize)
    (enough : snWindowSize < turns) {net : Network} (inSession : net.InSession ab ba) {action : Action}
    (sized : action.Sized) (inOrder : net.TakesInOrder action) :
    ∃ net', net.act turns action = .ok net' ∧ net'.InSession ab ba := by
  obtain ⟨cfg, cfg', out, in_, flights, flights', session⟩ := inSession
  apply act_inSession_of_safe abSmall baSmall enough session sized
  rintro reactions rfl flight first fits none_ d member
  have valid := session.validIn
  have isData : d ∈ in_.data := by
    rw [session.b.data]
    exact List.mem_filterMap.mpr ⟨flight, List.mem_of_head? first, member⟩
  have inside := valid.item_lt isData
  have sent := valid.sent_le
  have base := valid.base_le
  have acked := valid.acked_le
  -- The serial number is that of the payload: nothing was accepted, so only a window was sent.
  have few : d.1 < snWindowSize := by omega
  have empty : acceptedPayloads net.a.log = [] := by
    rw [show acceptedPayloads net.a.log = in_.sent.take in_.received from session.a.receives.accepted, none_,
      List.take_zero]
  have isFirst : flight.encode ∈ net.b.wire.head? := by
    rw [session.b.wire, List.head?_map, Option.mem_def.mp first]
    rfl
  have isPacket := session.packets' flight (List.mem_of_head? first)
  cases flight with
  | control bytes => exact isPacket.elim
  | packet ack payload =>
      have isPayload : (d.1, d.2) ∈ payloadOf (Flight.packet ack payload).encode := by
        obtain rfl : payload = some d := member
        rw [payloadOf_encode, Option.map_some, Nat.mod_eq_of_lt few]
        rfl
      have psn := session.a.receives.psn
      rw [none_, Nat.zero_mod] at psn
      cases inOrder empty _ isFirst fits _ isPayload with
      | inl expected => exact .inl (expected.trans psn)
      | inr unexpected =>
          apply Or.inr
          have far : calculateDistance d.1 0 ≥ ba := by
            rw [← psn, ← session.a.receives.window]
            exact unexpected.2
          have ahead : 0 < d.1 := by
            have differs := unexpected.1
            omega
          unfold calculateDistance at far
          rw [Nat.mod_eq_of_lt (by omega)] at far
          omega

theorem run_inSession_of_runsInOrder {turns ab ba : Nat} (abSmall : ab < snWindowSize) (baSmall : ba < snWindowSize)
    (enough : snWindowSize < turns) {net : Network} (inSession : net.InSession ab ba) {steps : List (Party × Action)}
    (sized : ∀ step ∈ steps, step.2.Sized) (inOrder : net.RunsInOrder turns steps) :
    ∃ net', net.run turns steps = .ok net' ∧ net'.InSession ab ba := by
  induction steps generalizing net with
  | nil => exact ⟨net, rfl, inSession⟩
  | cons step steps ih =>
      have later : ∀ step ∈ steps, step.2.Sized := fun other member =>
        sized other (List.mem_cons_of_mem _ member)
      obtain ⟨party, action⟩ := step
      have sized' := sized (party, action) List.mem_cons_self
      obtain ⟨first, rest⟩ := inOrder
      unfold Network.run
      rw [List.foldlM_cons]
      cases party with
      | a =>
          obtain ⟨net', acts, inSession'⟩ :=
            act_inSession_of_takesInOrder abSmall baSmall enough inSession sized' first
          have steps' : net.step turns (.a, action) = .ok net' := acts
          rw [steps']
          exact ih inSession' later (rest net' steps')
      | b =>
          obtain ⟨net', acts, inSession'⟩ :=
            act_inSession_of_takesInOrder baSmall abSmall enough inSession.swap sized' first
          have steps' : net.step turns (.b, action) = .ok net'.swap := by
            rw [Network.step, acts]
            rfl
          rw [steps']
          exact ih inSession'.swap later (rest net'.swap steps')

end Network

/-! ## Runs -/

/-- Over every run of two endpoints that are in a fresh session, with any windows, in which
    neither takes a payload for an old one before it has accepted any, the acks are sound. -/
theorem acks_sound {turns ab ba : Nat} {net : Network} (enough : snWindowSize < turns) (abSmall : ab < snWindowSize)
    (baSmall : ba < snWindowSize) (freshA : net.a.Fresh ab ba) (freshB : net.b.Fresh ba ab)
    {steps : List (Party × Action)} (sized : ∀ step ∈ steps, step.2.Sized)
    (inOrder : net.RunsInOrder turns steps) :
    ∃ net', net.run turns steps = .ok net' ∧ net'.AcksSound ∧ net'.swap.AcksSound := by
  obtain ⟨net', runs, inSession⟩ :=
    Network.run_inSession_of_runsInOrder abSmall baSmall enough (freshA.inSession freshB) sized inOrder
  exact ⟨net', runs, inSession.acksSound baSmall, inSession.swap.acksSound abSmall⟩

/-- An endpoint at the beginning of a session with windows of seventeen packets. -/
def wideEndpoint : Endpoint where
  protocol := ⟨.ready, ⟨17, 17⟩, ⟨17, 17⟩, 0, 0, .zero, .zero⟩
  outgoing := []
  transportMaxPacketSize := 5
  sendResults := []
  wire := []
  log := []

theorem wideEndpoint_fresh : wideEndpoint.Fresh 17 17 := by
  constructor <;> first | rfl | decide

theorem acks_sound_wide : ∃ net', (⟨wideEndpoint, wideEndpoint⟩ : Network).run 33 lossySteps = .ok net' ∧
    net'.AcksSound ∧ net'.swap.AcksSound := by
  have sized : ∀ step ∈ lossySteps, step.2.Sized := by
    simp [lossySteps, Action.Sized, ClientCall.Sized, Reactions.Sized]
  exact @acks_sound 33 17 17 ⟨wideEndpoint, wideEndpoint⟩ (by decide) (by decide) (by decide) wideEndpoint_fresh
    wideEndpoint_fresh lossySteps sized (by decide +kernel)

/-- The first sixteen packets of a full window are lost. -/
def lostSteps : List (Party × Action) :=
  [(Party.a, Action.call (.queue (List.replicate 68 0))), (.a, .call .notifyOutgoingDataAvailable)] ++
    List.replicate 16 (Party.a, Action.drop 0) ++ [(Party.b, Action.deliver ⟨[], [], []⟩), (.b, .ackTimer)]

/-- The last packet of the window looks like an old one, and the payload that was never
    received is acked. -/
theorem acks_sound_lost : ∃ net', (⟨wideEndpoint, wideEndpoint⟩ : Network).run 33 lostSteps = .ok net' ∧
    net'.b.wire = [[encodeAck 0]] ∧ acceptedPayloads net'.b.log = [] ∧ ¬ net'.swap.AcksSound := by
  have seen : ((⟨wideEndpoint, wideEndpoint⟩ : Network).run 33 lostSteps).map
      (fun net => (net.b.wire, acceptedPayloads net.b.log)) = .ok ([[encodeAck 0]], []) := by
    decide +kernel
  obtain ⟨net', runs⟩ : ∃ net', (⟨wideEndpoint, wideEndpoint⟩ : Network).run 33 lostSteps = .ok net' := by
    cases runs : (⟨wideEndpoint, wideEndpoint⟩ : Network).run 33 lostSteps with
    | ok net' => exact ⟨net', rfl⟩
    | error => rw [runs] at seen; exact nomatch seen
  rw [runs] at seen
  have both := Prod.mk.inj (Except.ok.inj seen)
  refine ⟨net', runs, both.1, both.2, fun sound => ?_⟩
  have isFirst : [encodeAck 0] ∈ net'.b.wire := by
    rw [both.1]
    exact List.mem_singleton_self _
  obtain ⟨i, -, accepted, -⟩ := sound _ isFirst 0 rfl
  change i < (acceptedPayloads net'.b.log).length at accepted
  rw [both.2] at accepted
  exact Nat.not_lt_zero _ accepted

end GoldenGate.Gattlink
