import GoldenGate.Common.Result
import GoldenGate.Common.Utils
import GoldenGate.Lib.Memory

/-! # Performance data sinks

The embedding of `gg_perf_data_sink.c`. The probe of a sink is known by the calls that it gets: it only measures, and
tells the sink of a report when it likes.
-/

namespace GoldenGate

open Memory

/-- `GG_PerfDataSinkMode`. -/
inductive PerfDataSinkMode where
  | raw
  | basicOrIpCounter
  deriving Repr, DecidableEq

/-- `GG_PerfDataSinkStats`, without the throughput, which the probe finds. -/
structure PerfDataSinkStats where
  packetsReceived : Nat
  bytesReceived : Nat
  lastReceivedCounter : UInt32
  nextExpectedCounter : UInt32
  gapCount : Nat
  passthroughWouldBlockCount : Nat
  deriving Repr, DecidableEq

/-- A call of a `GG_DataProbe`. -/
inductive ProbeCall where
  | reset
  | resetWithTime (time : UInt64)
  | accumulateWithTime (byteCount : Nat) (time : UInt64)
  | forceReport
  | getReport
  deriving Repr, DecidableEq

/-- `GG_PerfDataSink`. -/
structure PerfDataSink where
  mode : PerfDataSinkMode
  options : UInt32
  stats : PerfDataSinkStats
  startTime : UInt64
  hasPassthroughTarget : Bool
  probeCalls : List ProbeCall
  deriving Repr, DecidableEq

/-- A packet for a sink, with what its target makes of it, the time, and if the probe reports. -/
structure Delivery where
  packet : List UInt8
  target : Except Error Unit
  now : UInt64
  reports : Bool

namespace PerfDataSink

/-- `GG_PERF_DATA_SINK_OPTION_AUTO_RESET_STATS`. -/
def optionAutoResetStats : UInt32 := 4

/-- `GG_PERF_SINK_LAST_PACKET_COUNTER`. -/
def lastPacketCounter : UInt32 := 0xFFFFFFFF

/-- `GG_PerfDataSink_Create`, where there is memory. -/
def create (mode : PerfDataSinkMode) (options : UInt32) : PerfDataSink :=
  ⟨mode, options, ⟨0, 0, 0, 0, 0, 0⟩, 0, false, [.reset]⟩

/-- A call of the probe. -/
def callProbe (self_ : PerfDataSink) (call : ProbeCall) : PerfDataSink :=
  { self_ with probeCalls := self_.probeCalls ++ [call] }

/-- `GG_PerfDataSink_ResetStats`. -/
def resetStats (self_ : PerfDataSink) : PerfDataSink :=
  callProbe { self_ with stats := ⟨0, 0, 0, 0, 0, 0⟩, startTime := 0 } .reset

/-- If the header is one that a blaster makes. -/
def isIpPacket (packet : List UInt8) : Access Bool :=
  if packet.length ≥ 20 then do
    let version ← load packet 0
    let hi ← load packet 2
    let lo ← load packet 3
    let rest ← loadBytes packet 10 10
    .ok (version = 0x45 ∧ (bytesToInt16Be hi lo).toNat = packet.length ∧ rest.all (· = 0))
  else .ok false

/-- The counter that `GG_PerfDataSink_ParseCounterPacket` finds. -/
def parseCounterPacket (packet : List UInt8) : Access UInt32 := do
  if ← isIpPacket packet then do
    let hi ← load packet 4
    let lo ← load packet 5
    let flags ← load packet 6
    .ok (if flags &&& 0x40 = 0 then lastPacketCounter else (bytesToInt16Be hi lo).toUInt32)
  else do
    let b0 ← load packet 0
    let b1 ← load packet 1
    let b2 ← load packet 2
    let b3 ← load packet 3
    .ok (bytesToInt32Be b0 b1 b2 b3)

/-- The check for gaps. -/
def checkGaps (self_ : PerfDataSink) (counter : UInt32) : PerfDataSink :=
  let self_ := { self_ with stats := { self_.stats with lastReceivedCounter := counter } }
  let stats := self_.stats
  if counter = lastPacketCounter then { self_ with stats := { stats with nextExpectedCounter := 0 } }
  else if counter = 0 then
    let self_ := self_.resetStats
    { self_ with stats := { self_.stats with nextExpectedCounter := 1 } }
  else { self_ with stats := { stats with
      gapCount := if counter ≠ stats.nextExpectedCounter then stats.gapCount + 1 else stats.gapCount
      nextExpectedCounter := counter + 1 } }

/-- `GG_PerfDataSink_OnDataProbeReportReady`. -/
def onDataProbeReportReady (self_ : PerfDataSink) : PerfDataSink :=
  let self_ := self_.callProbe .getReport
  if self_.options &&& optionAutoResetStats ≠ 0 then
    let reset := self_.resetStats
    { reset with stats := { reset.stats with nextExpectedCounter := self_.stats.nextExpectedCounter } }
  else self_

/-- The update of the stats, where the first packet only starts the clock. -/
def updateStats (self_ : PerfDataSink) (delivery : Delivery) : PerfDataSink :=
  let packetSize := delivery.packet.length
  let now := delivery.now
  if self_.startTime ≠ 0 then
    let self_ := { self_ with stats := { self_.stats with
      bytesReceived := self_.stats.bytesReceived + packetSize
      packetsReceived := self_.stats.packetsReceived + 1 } }
    let self_ := self_.callProbe (.accumulateWithTime packetSize now)
    if delivery.reports then self_.onDataProbeReportReady else self_
  else callProbe { self_ with startTime := now } (.resetWithTime now)

/-- What `GG_PerfDataSink_PutData` does once the target has the packet. -/
def receive (self_ : PerfDataSink) (delivery : Delivery) : Access PerfDataSink := do
  let self_ := if self_.stats.lastReceivedCounter = lastPacketCounter then self_.resetStats else self_
  let self_ ← (match self_.mode with
    | .basicOrIpCounter => do
        let counter ← parseCounterPacket delivery.packet
        .ok (self_.checkGaps counter)
    | .raw => .ok self_ : Access PerfDataSink)
  let self_ := self_.updateStats delivery
  .ok (if self_.stats.lastReceivedCounter = lastPacketCounter then
      (self_.callProbe .forceReport).onDataProbeReportReady
    else self_)

/-- `GG_PerfDataSink_PutData`. -/
def putData (self_ : PerfDataSink) (delivery : Delivery) : Access (Except Error Unit × PerfDataSink) :=
  match self_.hasPassthroughTarget, delivery.target with
  | true, .error e =>
      let blocked := { self_.stats with passthroughWouldBlockCount := self_.stats.passthroughWouldBlockCount + 1 }
      .ok (.error e, if e = .wouldBlock then { self_ with stats := blocked } else self_)
  | _, _ => do
      let self_ ← self_.receive delivery
      .ok (.ok (), self_)

/-- `GG_PerfDataSink_SetPassthroughTarget`, with another sink. -/
def setPassthroughTarget (self_ : PerfDataSink) (target : Bool) : PerfDataSink :=
  { self_ with hasPassthroughTarget := target }

/-- Packets are put into a sink, one after the other. -/
def putAll (self_ : PerfDataSink) (deliveries : List Delivery) : Access PerfDataSink :=
  deliveries.foldlM (fun self_ delivery => Prod.snd <$> self_.putData delivery) self_

end PerfDataSink

end GoldenGate
