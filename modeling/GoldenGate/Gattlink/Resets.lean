import GoldenGate.Gattlink.Delivery
import Mathlib.Data.List.DropRight

/-! # Resets

Two endpoints that have been started, with wires that lose nothing, of which either may be
reset, by a call or by its timer. The handshake has no name for a session, so the question
is whether a packet can be taken for one of a later session.
-/

namespace GoldenGate.Gattlink

open Memory GoBackN

/-- What can happen at an endpoint, resets included. -/
inductive Occurrence where
  | act (action : Action)
  | reset
  deriving Repr, DecidableEq

section Steps

variable (turns : Nat)

namespace Network

def happen (net : Network) : Occurrence → Access Network
  | .act action => net.act turns action
  | .reset => do
      let (a, _) ← net.a.reset
      return { net with a := a }

def link (net : Network) : Party × Occurrence → Access Network
  | (.a, occurrence) => net.happen turns occurrence
  | (.b, occurrence) => swap <$> net.swap.happen turns occurrence

def links (net : Network) (steps : List (Party × Occurrence)) : Access Network :=
  steps.foldlM (link turns) net

end Network

end Steps

/-! ## Sessions -/

/-- What was logged since the client was last told that the session is reset. -/
def session (log : List Event) : List Event := log.rtakeWhile (· ≠ .sessionReset)

theorem session_concat (log : List Event) {event : Event} (other : event ≠ .sessionReset) :
    session (log ++ [event]) = session log ++ [event] :=
  List.rtakeWhile_concat_pos _ log event (by simpa using other)

/-- A log whose last reset is known. -/
theorem session_append {past log : List Event} (origin : past = [] ∨ ∃ before, past = before ++ [Event.sessionReset])
    (noReset : Event.sessionReset ∉ log) : session (past ++ log) = log := by
  induction log using List.reverseRecOn with
  | nil =>
      obtain rfl | ⟨before, rfl⟩ := origin
      · rfl
      · rw [List.append_nil]
        exact List.rtakeWhile_concat_neg _ before _ (by simp)
  | append_singleton log event ih =>
      rw [List.mem_append, not_or, List.mem_singleton] at noReset
      rw [← List.append_assoc, session_concat _ (Ne.symm noReset.2), ih noReset.1]

/-- What the protocol of the first endpoint has let its client consume in its session was
    handed to the client of the second one, in one session and from its beginning. -/
def Network.Acknowledged (net : Network) : Prop :=
  let current := session net.a.log
  consumedBytes current ≤ (queuedBytes current).length ∧
    ∃ past, past <+: net.b.log ∧
      (queuedBytes current).take (consumedBytes current) <+: (acceptedPayloads (session past)).flatten

/-- What was handed to the client of the second endpoint in its session was queued by the
    client of the first one, in one session and from its beginning. -/
def Network.Paired (net : Network) : Prop :=
  ∃ past, past <+: net.a.log ∧
    (acceptedPayloads (session net.b.log)).flatten <+: queuedBytes (session past)

/-! ## What may happen -/

def IsResetRequest (packet : List UInt8) : Prop :=
  packet.head? = some (Endpoint.buildControlPacket controlPacketTypeResetRequest)

def IsResetComplete (packet : List UInt8) : Prop :=
  packet.head? = some (Endpoint.buildControlPacket controlPacketTypeResetComplete)

instance (packet : List UInt8) : Decidable (IsResetRequest packet) :=
  inferInstanceAs (Decidable (packet.head? = _))

instance (packet : List UInt8) : Decidable (IsResetComplete packet) :=
  inferInstanceAs (Decidable (packet.head? = _))

namespace Network

/-- The first endpoint can be reset without confusion: it is not answering a reset of the
    other one, and when it is ready then every reset request of its own has arrived, and so
    has every answer to one. -/
def MayReset (net : Network) : Prop :=
  net.a.protocol.state ≠ .awaitingResetCompleteRemoteInitiated ∧
    (net.a.protocol.state = .ready →
      (∀ packet ∈ net.a.wire, ¬ IsResetRequest packet) ∧ ∀ packet ∈ net.b.wire, ¬ IsResetComplete packet)

/-- What may happen at the first endpoint: nothing is lost, the client announces data only
    in a session, and a timer is not the cause of a reset that may not be. -/
def MayHappen (net : Network) : Occurrence → Prop
  | .reset => net.MayReset
  | .act (.retransmitTimer _) => net.a.protocol.state ≠ .awaitingResetCompleteRemoteInitiated
  | .act (.call .notifyOutgoingDataAvailable) => net.a.protocol.state = .ready
  | .act (.drop _) => False
  | .act action => action.Sized

instance : ∀ call : ClientCall, Decidable call.Sized
  | .setTransportMaxPacketSize size => inferInstanceAs (Decidable (resetCompletePacketSize ≤ size))
  | .queue _ | .consumeIncomingData _ | .notifyOutgoingDataAvailable => inferInstanceAs (Decidable True)

instance (net : Network) : ∀ occurrence, Decidable (net.MayHappen occurrence)
  | .reset => inferInstanceAs (Decidable (_ ∧ _))
  | .act (.call .notifyOutgoingDataAvailable) => inferInstanceAs (Decidable (_ = _))
  | .act (.call (.queue data)) => inferInstanceAs (Decidable (ClientCall.queue data).Sized)
  | .act (.call (.consumeIncomingData size)) => inferInstanceAs (Decidable (ClientCall.consumeIncomingData size).Sized)
  | .act (.call (.setTransportMaxPacketSize size)) =>
      inferInstanceAs (Decidable (ClientCall.setTransportMaxPacketSize size).Sized)
  | .act (.deliver _) => inferInstanceAs (Decidable (_ ∧ _ ∧ _))
  | .act (.drop _) => inferInstanceAs (Decidable False)
  | .act .ackTimer => inferInstanceAs (Decidable True)
  | .act (.retransmitTimer _) => inferInstanceAs (Decidable (_ ≠ _))

/-- Whatever happens in a run may happen. -/
def Permits (turns : Nat) (net : Network) : List (Party × Occurrence) → Prop
  | [] => True
  | (party, occurrence) :: steps =>
      (match party with
        | .a => net.MayHappen occurrence
        | .b => net.swap.MayHappen occurrence) ∧
      ∀ net', net.link turns (party, occurrence) = .ok net' → net'.Permits turns steps

instance decidablePermits (turns : Nat) (net : Network) :
    ∀ steps, Decidable (net.Permits turns steps)
  | [] => inferInstanceAs (Decidable True)
  | (party, occurrence) :: steps =>
      have may : Decidable (match party with
          | .a => net.MayHappen occurrence
          | .b => net.swap.MayHappen occurrence) := match party with
        | .a => inferInstance
        | .b => inferInstance
      have := fun (net' : Network) => decidablePermits turns net' steps
      @instDecidableAnd _ _ may inferInstance

/-- Both endpoints are started. -/
def start (net : Network) : Access Network := do
  let (a, _) ← net.a.start
  let (b, _) ← net.b.start
  return ⟨a, b⟩

end Network

end GoldenGate.Gattlink
