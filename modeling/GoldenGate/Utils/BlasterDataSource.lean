import GoldenGate.Common.Result
import GoldenGate.Common.Utils
import GoldenGate.Lib.Memory

/-! # Blasters

The embedding of `gg_blaster_data_source.c`, with the sink that the packets go to and the memory that they are made of:
both answer each call as they like.
-/

namespace GoldenGate

open Memory

/-- `GG_BlasterDataSourcePacketFormat`. -/
inductive PacketFormat where
  | basicCounter
  | ipCounter
  deriving Repr, DecidableEq

/-- `GG_BlasterDataSource`. A timer is scheduled, or it is not. -/
structure BlasterDataSource where
  hasSink : Bool
  pendingOutput : Option (List UInt8)
  sendTimer : Option Bool
  sendInterval : UInt32
  packetSize : Nat
  packetCount : Nat
  maxPacketCount : Nat
  running : Bool
  packetFormat : PacketFormat
  deriving Repr, DecidableEq

/-- What `GG_DataSink_PutData` returns, and if `GG_DynamicBuffer_Create` has memory, for each call. -/
structure BlastWorld where
  answers : Nat → Except Error Unit
  memory : Nat → Bool

/-- A blaster, how many calls there were, and the packets that the sink has accepted. -/
structure Blast where
  blaster : BlasterDataSource
  puts : Nat
  buffers : Nat
  accepted : List (List UInt8)
  deriving Repr, DecidableEq

namespace BlasterDataSource

/-- `GG_BLASTER_BASIC_COUNTER_PACKET_MIN_SIZE` and `GG_BLASTER_IP_COUNTER_PACKET_MIN_SIZE`. -/
def packetMinSize : PacketFormat → Nat
  | .basicCounter => 4
  | .ipCounter => 20

/-- `GG_BlasterDataSource_Create`, where there is memory. -/
def create (packetSize : Nat) (packetFormat : PacketFormat) (maxPacketCount : Nat) (hasTimerScheduler : Bool)
    (sendInterval : UInt32) : Except Error BlasterDataSource :=
  if packetSize = 0 then .error .invalidParameters
  else if packetSize < packetMinSize packetFormat then .error .invalidParameters
  else if sendInterval ≠ 0 ∧ ¬ hasTimerScheduler then .error .invalidParameters
  else
    let sendTimer := if sendInterval = 0 then none else some false
    .ok ⟨false, none, sendTimer, sendInterval, packetSize, 0, maxPacketCount, false, packetFormat⟩

/-- `GG_BlasterDataSource_SetDataSink`, with a sink. -/
def setDataSink (blaster : BlasterDataSource) : BlasterDataSource := { blaster with hasSink := true }

/-- `packet_data[i] = (uint8_t)i`, from an index on. -/
def pattern (blaster : BlasterDataSource) (first : Nat) : List UInt8 :=
  (List.range' first (blaster.packetSize - first)).map UInt8.ofNat

/-- `GG_BlasterDataSource_FillBasicPacket`. -/
def fillBasicPacket (blaster : BlasterDataSource) : Access (List UInt8) := do
  assert (blaster.packetSize ≥ packetMinSize .basicCounter)
  let counter := UInt32.ofNat blaster.packetCount
  let counter := if (counter + 1).toNat = blaster.maxPacketCount then 0xFFFFFFFF else counter
  .ok (bytesFromInt32Be counter ++ blaster.pattern 4)

/-- `GG_BlasterDataSource_FillIpPacket`. -/
def fillIpPacket (blaster : BlasterDataSource) : Access (List UInt8) := do
  assert (blaster.packetSize ≥ packetMinSize .ipCounter)
  let flags : UInt8 := if blaster.packetCount + 1 ≠ blaster.maxPacketCount then 0x80 ||| 0x40 else 0x80
  let header : List UInt8 := [0x45, 0, UInt8.ofNat (blaster.packetSize >>> 8), UInt8.ofNat blaster.packetSize,
    UInt8.ofNat (blaster.packetCount >>> 8), UInt8.ofNat blaster.packetCount, flags]
  .ok (header ++ List.replicate 13 0 ++ blaster.pattern 20)

/-- The packet in the format of the blaster. -/
def fillPacket (blaster : BlasterDataSource) : Access (List UInt8) :=
  match blaster.packetFormat with
  | .basicCounter => blaster.fillBasicPacket
  | .ipCounter => blaster.fillIpPacket

end BlasterDataSource

namespace Blast

variable (world : BlastWorld)

/-- `GG_BlasterDataSource_NextPacket`. -/
def nextPacket (self_ : Blast) : Access Blast := do
  let blaster := self_.blaster
  assert (blaster.pendingOutput = none)
  if ¬ blaster.running then .ok self_
  else if blaster.maxPacketCount ≠ 0 ∧ blaster.packetCount = blaster.maxPacketCount then .ok self_
  else if ¬ world.memory self_.buffers then .ok { self_ with buffers := self_.buffers + 1 }
  else do
    let packet ← blaster.fillPacket
    .ok { self_ with blaster := { blaster with pendingOutput := some packet }, buffers := self_.buffers + 1 }

/-- The sink has accepted a packet. -/
def sent (self_ : Blast) (packet : List UInt8) : Blast :=
  { self_ with
    blaster := { self_.blaster with pendingOutput := none, packetCount := self_.blaster.packetCount + 1 }
    puts := self_.puts + 1
    accepted := self_.accepted ++ [packet] }

/-- The loop of `GG_BlasterDataSource_OnCanPut`. -/
def putLoop : Nat → Blast → Access Blast
  | 0, _ => .error .diverges
  | fuel + 1, self_ =>
      match self_.blaster.pendingOutput with
      | none => .ok self_
      | some packet =>
          match world.answers self_.puts with
          | .error _ => .ok { self_ with puts := self_.puts + 1 }
          | .ok () =>
              if self_.blaster.sendInterval = 0 then do
                let next ← (self_.sent packet).nextPacket world
                putLoop fuel next
              else .ok (self_.sent packet)

/-- `GG_BlasterDataSource_OnCanPut`. -/
def onCanPut (fuel : Nat) (self_ : Blast) : Access Blast :=
  if self_.blaster.hasSink then self_.putLoop world fuel else .ok self_

/-- `GG_Timer_Schedule` for the timer of the blaster. -/
def scheduled (self_ : Blast) : Blast := { self_ with blaster := { self_.blaster with sendTimer := some true } }

/-- `GG_BlasterDataSource_OnTimerFired`. -/
def onTimerFired (fuel : Nat) (self_ : Blast) : Access Blast :=
  if ¬ self_.blaster.running then .ok self_
  else do
    let next ← (if self_.blaster.pendingOutput = none then self_.nextPacket world else .ok self_ : Access Blast)
    let put ← next.onCanPut world fuel
    .ok put.scheduled

/-- `GG_BlasterDataSource_Start`. -/
def start (fuel : Nat) (self_ : Blast) : Access Blast := do
  let timer := self_.blaster.sendTimer
  let blaster := { self_.blaster with
    sendTimer := if timer.isSome then some true else none
    packetCount := 0
    pendingOutput := none
    running := true }
  let first ← ({ self_ with blaster } : Blast).nextPacket world
  first.onCanPut world fuel

/-- `GG_BlasterDataSource_Stop`. -/
def stop (self_ : Blast) : Blast :=
  let timer := self_.blaster.sendTimer
  { self_ with blaster := { self_.blaster with
      running := false
      sendTimer := if timer.isSome then some false else none
      pendingOutput := none } }

/-- The sink calls its listener, or the timer fires. -/
inductive Event where
  | canPut
  | tick
  deriving Repr, DecidableEq

/-- A timer only fires when it is scheduled, and is not scheduled any more then. -/
def step (fuel : Nat) (self_ : Blast) : Event → Access Blast
  | .canPut => self_.onCanPut world fuel
  | .tick =>
      if self_.blaster.sendTimer = some true then
        onTimerFired world fuel { self_ with blaster := { self_.blaster with sendTimer := some false } }
      else .ok self_

/-- A blaster with a sink is started, and events follow. -/
def run (fuel : Nat) (blaster : BlasterDataSource) (events : List Event) : Access Blast := do
  let first ← start world fuel ⟨blaster.setDataSink, 0, 0, []⟩
  events.foldlM (step world fuel) first

end Blast

end GoldenGate
