/-! # Result codes

The negative `GG_Result` values the modelled functions return. `GG_SUCCESS` is
the `.ok` side of `Except Error`.
-/

namespace GoldenGate

inductive Error where
  | invalidParameters
  | outOfRange
  | invalidFormat
  | invalidSyntax
  | noSuchItem
  | notSupported
  | notEnoughSpace
  | outOfResources
  | outOfMemory
  | wouldBlock
  | invalidState
  | gattlinkUnexpectedPsn
  | timeout
  | coapUnsupportedVersion
  | coapInvalidResponse
  | coapEtagMismatch
  | coapUnexpectedBlock
  | coapReset
  | coapSendFailure
  | coapUnexpectedMessage
  | addressInUse
  | networkUnreachable
  | failure
  | remoteExit
  | eos
  | internal
  deriving Repr, DecidableEq

end GoldenGate
