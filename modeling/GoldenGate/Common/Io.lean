/-! # Addresses and metadata

The metadata that go with a buffer from a source to a sink, as far as they name socket addresses.
-/

namespace GoldenGate

/-- `GG_SocketAddress`, with the integer of the IP address. -/
structure SocketAddress where
  address : UInt32
  port : UInt16
  deriving Repr, DecidableEq

/-- `GG_BufferMetadata`. -/
inductive BufferMetadata where
  | sourceSocketAddress (socketAddress : SocketAddress)
  | destinationSocketAddress (socketAddress : SocketAddress)
  | other
  deriving Repr, DecidableEq

end GoldenGate
