import GoldenGate.Lib.Runs
import GoldenGate.Utils.BlasterDataSource
import GoldenGate.Utils.PerfDataSink

/-! # What blasters send

Whatever the sink answers, it accepts the packets of a blaster in order, each once, and a sink that counts them finds
no gap, up to as many as the counter of the format can tell apart.
-/

namespace GoldenGate

open Memory

/-! ## Sending -/

section Sending

/-- The blaster has been started. -/
def BlasterDataSource.started (blaster : BlasterDataSource) : BlasterDataSource :=
  { blaster.setDataSink with
    sendTimer := if blaster.sendTimer.isSome then some true else none
    packetCount := 0
    pendingOutput := none
    running := true }

/-- The packet of a number. -/
def BlasterDataSource.packet (blaster : BlasterDataSource) (number : Nat) : Access (List UInt8) :=
  ({ blaster with packetCount := number } : BlasterDataSource).fillPacket

namespace Blast

variable (world : BlastWorld) (started : BlasterDataSource)

/-- The sink has accepted the first packets, and what is pending is the next one. -/
structure Sending (blast : Blast) : Prop where
  blaster : blast.blaster = { started with
    packetCount := blast.accepted.length
    pendingOutput := blast.blaster.pendingOutput
    sendTimer := blast.blaster.sendTimer }
  few : blast.accepted.length ≤ started.maxPacketCount
  accepted : ∀ k packet, blast.accepted[k]? = some packet → started.packet k = .ok packet
  pending : ∀ packet, blast.blaster.pendingOutput = some packet →
    blast.accepted.length < started.maxPacketCount ∧ started.packet blast.accepted.length = .ok packet

/-- There is a packet for the sink, as long as not all of them have been accepted. -/
def Ready (blast : Blast) : Prop :=
  blast.blaster.pendingOutput = none → blast.accepted.length = started.maxPacketCount

/-- What a blaster is for all the time that it sends. -/
structure CanSend : Prop where
  running : started.running
  hasSink : started.hasSink
  some : 0 < started.maxPacketCount
  fills : ∀ k, ∃ packet, started.packet k = .ok packet

/-- The sink accepts all the packets from a call on. -/
def Accepts (puts : Nat) : Prop := ∀ i, puts ≤ i → world.answers i = .ok ()

variable {world started}

theorem Accepts.later {puts puts' : Nat} (accepts : Accepts world puts) (later : puts ≤ puts') :
    Accepts world puts' :=
  fun i after => accepts i (Nat.le_trans later after)

theorem nextPacket_sending {blast : Blast} (canSend : CanSend started) (sending : Sending started blast)
    (empty : blast.blaster.pendingOutput = none) :
    ∃ next, blast.nextPacket world = .ok next ∧ Sending started next ∧ next.accepted = blast.accepted ∧
      next.puts = blast.puts ∧ next.blaster.sendTimer = blast.blaster.sendTimer ∧
      (world.memory blast.buffers → Ready started next) := by
  have fields := sending.blaster
  have running : blast.blaster.running := by
    rw [fields]
    exact canSend.running
  have count : blast.blaster.packetCount = blast.accepted.length := by rw [fields]
  have maximum : blast.blaster.maxPacketCount = started.maxPacketCount := by rw [fields]
  have unlimited : started.maxPacketCount ≠ 0 := Nat.pos_iff_ne_zero.mp canSend.some
  simp only [nextPacket, empty, decide_true, assert, if_true, ok_bind, running, not_true_eq_false, if_false, count,
    maximum]
  by_cases done : blast.accepted.length = started.maxPacketCount
  · rw [if_pos ⟨unlimited, done⟩]
    exact ⟨blast, rfl, sending, rfl, rfl, rfl, fun _ _ => done⟩
  · rw [if_neg (fun both => done both.2)]
    cases memory : world.memory blast.buffers with
    | false =>
        refine ⟨_, rfl, ⟨sending.blaster, sending.few, sending.accepted, sending.pending⟩, rfl, rfl, rfl, ?_⟩
        exact fun is => absurd is (by decide)
    | true =>
        obtain ⟨packet, fills⟩ := canSend.fills blast.accepted.length
        have same : blast.blaster.fillPacket = .ok packet := by
          rw [← fills, fields]
          rfl
        simp only [not_true_eq_false, if_false, same, ok_bind]
        refine ⟨_, rfl, ⟨?_, sending.few, sending.accepted, ?_⟩, rfl, rfl, rfl, fun _ => fun same => (by cases same)⟩
        · rw [fields, ← canSend.running]
        · intro other isOther
          cases isOther
          exact ⟨Nat.lt_of_le_of_ne sending.few done, fills⟩

theorem sent_sending {blast : Blast} {packet : List UInt8} (sending : Sending started blast)
    (pending : blast.blaster.pendingOutput = some packet) : Sending started (blast.sent packet) := by
  obtain ⟨more, isNext⟩ := sending.pending packet pending
  have fields := sending.blaster
  refine ⟨?_, ?_, ?_, fun _ => nofun⟩
  · simp only [sent, List.length_append, List.length_singleton]
    rw [fields]
  · simp only [sent, List.length_append, List.length_singleton]
    omega
  · intro k other isOther
    rw [sent, List.getElem?_append] at isOther
    by_cases before : k < blast.accepted.length
    · rw [if_pos before] at isOther
      exact sending.accepted k other isOther
    · rw [if_neg before] at isOther
      obtain ⟨place, isPacket⟩ := List.getElem?_eq_some_iff.mp isOther
      have here : k = blast.accepted.length := by
        simp at place
        omega
      subst here
      simp at isPacket
      exact isPacket ▸ isNext

/-- What the sink has accepted stays accepted, and the timer stays as it is. -/
structure Progress (blast next : Blast) : Prop where
  accepted : blast.accepted.length ≤ next.accepted.length
  puts : blast.puts ≤ next.puts
  timer : next.blaster.sendTimer = blast.blaster.sendTimer

theorem Progress.refl (blast : Blast) : Progress blast blast :=
  ⟨Nat.le_refl _, Nat.le_refl _, rfl⟩

theorem Progress.trans {first second third : Blast} (one : Progress first second) (other : Progress second third) :
    Progress first third :=
  ⟨Nat.le_trans one.accepted other.accepted, Nat.le_trans one.puts other.puts, other.timer.trans one.timer⟩

/-- The loop ends. When there is a packet and the sink accepts, at least one more is accepted. -/
theorem putLoop_sending (canSend : CanSend started) {fuel : Nat} {blast : Blast} (sending : Sending started blast)
    (enough : started.maxPacketCount < blast.accepted.length + fuel) :
    ∃ next, blast.putLoop world fuel = .ok next ∧ Sending started next ∧ Progress blast next ∧
      ((∀ i, world.memory i) → started.sendInterval = 0 → Ready started blast → Ready started next) ∧
      (Accepts world blast.puts → blast.blaster.pendingOutput ≠ none →
        blast.accepted.length < next.accepted.length) := by
  induction fuel generalizing blast with
  | zero => exact absurd enough (Nat.not_lt.mpr sending.few)
  | succ fuel ih =>
      rw [putLoop]
      cases pending : blast.blaster.pendingOutput with
      | none => exact ⟨blast, rfl, sending, .refl blast, fun _ _ ready => ready, fun _ some => absurd rfl some⟩
      | some packet =>
          cases answer : world.answers blast.puts with
          | error e =>
              refine ⟨_, rfl, ⟨sending.blaster, sending.few, sending.accepted, sending.pending⟩,
                ⟨Nat.le_refl _, Nat.le_succ _, rfl⟩, fun _ _ ready => ready, fun accepts => ?_⟩
              have accepted := accepts blast.puts (Nat.le_refl _)
              rw [answer] at accepted
              cases accepted
          | ok _ =>
              have sent := sent_sending sending pending
              have sentProgress : Progress blast (blast.sent packet) :=
                ⟨by simp [Blast.sent], Nat.le_succ _, rfl⟩
              have more : (blast.sent packet).accepted.length = blast.accepted.length + 1 := by simp [Blast.sent]
              have interval : blast.blaster.sendInterval = started.sendInterval := by rw [sending.blaster]
              simp only [interval]
              by_cases atOnce : started.sendInterval = 0
              · obtain ⟨made, makes, sending', same, puts, timer, ready⟩ :=
                  @nextPacket_sending world started _ canSend sent rfl
                have madeProgress : Progress (blast.sent packet) made := ⟨by rw [same], by rw [puts], timer⟩
                obtain ⟨next, loops, sending'', progress, readyAfter, -⟩ := ih sending' (by rw [same, more]; omega)
                refine ⟨next, ?_, sending'', (sentProgress.trans madeProgress).trans progress, ?_, fun _ _ => ?_⟩
                · rw [if_pos atOnce, makes]
                  exact loops
                · exact fun memory _ _ => readyAfter memory atOnce (ready (memory _))
                · have later := progress.accepted
                  rw [same, more] at later
                  exact later
              · rw [if_neg atOnce]
                refine ⟨_, rfl, sent, sentProgress, fun _ isZero => absurd isZero atOnce, fun _ _ => ?_⟩
                rw [more]
                exact Nat.lt_succ_self _

theorem onCanPut_sending (canSend : CanSend started) {fuel : Nat} {blast : Blast} (sending : Sending started blast)
    (enough : started.maxPacketCount < fuel) :
    ∃ next, blast.onCanPut world fuel = .ok next ∧ Sending started next ∧ Progress blast next ∧
      ((∀ i, world.memory i) → started.sendInterval = 0 → Ready started blast → Ready started next) ∧
      (Accepts world blast.puts → blast.blaster.pendingOutput ≠ none →
        blast.accepted.length < next.accepted.length) := by
  have hasSink : blast.blaster.hasSink := by
    rw [sending.blaster]
    exact canSend.hasSink
  rw [onCanPut, if_pos hasSink]
  exact putLoop_sending canSend sending (Nat.lt_of_lt_of_le enough (Nat.le_add_left fuel _))

/-! ## Runs of a blaster -/

/-- Between events, the timer is scheduled if there is one. -/
structure Between (world : BlastWorld) (started : BlasterDataSource) (blast : Blast) : Prop where
  sending : Sending started blast
  timer : blast.blaster.sendTimer = started.sendTimer
  ready : (∀ i, world.memory i) → started.sendInterval = 0 → Ready started blast

/-- What the blaster waits for. -/
def drive (started : BlasterDataSource) : Event := if started.sendInterval = 0 then .canPut else .tick

/-- The timer of a blaster that has one is scheduled. -/
def TimerFits (started : BlasterDataSource) : Prop :=
  started.sendTimer = if started.sendInterval = 0 then none else some true

/-- The timer does not matter for what is sent. -/
theorem Sending.withTimer {blast : Blast} (sending : Sending started blast) (timer : Option Bool) :
    Sending started { blast with blaster := { blast.blaster with sendTimer := timer } } := by
  refine ⟨?_, sending.few, sending.accepted, sending.pending⟩
  rw [sending.blaster]

/-- When the timer fires, the next packet is made if it has to be. -/
theorem makeNext_sending {blast : Blast} (canSend : CanSend started) (sending : Sending started blast) :
    ∃ made, (if blast.blaster.pendingOutput = none then blast.nextPacket world else .ok blast : Access Blast) = .ok made ∧
      Sending started made ∧ made.accepted = blast.accepted ∧ made.puts = blast.puts ∧
      (world.memory blast.buffers → made.accepted.length < started.maxPacketCount →
        made.blaster.pendingOutput ≠ none) := by
  by_cases empty : blast.blaster.pendingOutput = none
  · obtain ⟨made, makes, sending', same, puts, -, ready⟩ := @nextPacket_sending world started blast canSend sending empty
    rw [if_pos empty, makes]
    exact ⟨made, rfl, sending', same, puts, fun memory less none => absurd (ready memory none) (Nat.ne_of_lt less)⟩
  · rw [if_neg empty]
    exact ⟨blast, rfl, sending, rfl, rfl, fun _ _ => empty⟩

theorem tick_between (canSend : CanSend started) (timerFits : TimerFits started) {fuel : Nat} {blast : Blast}
    (between : Between world started blast) (enough : started.maxPacketCount < fuel) :
    ∃ next, blast.step world fuel .tick = .ok next ∧ Between world started next ∧
      blast.accepted.length ≤ next.accepted.length ∧ blast.puts ≤ next.puts ∧
      ((∀ i, world.memory i) → Accepts world blast.puts → started.sendInterval ≠ 0 →
        blast.accepted.length < started.maxPacketCount → blast.accepted.length < next.accepted.length) := by
  have timer := between.timer
  simp only [TimerFits] at timerFits
  by_cases atOnce : started.sendInterval = 0
  · rw [if_pos atOnce] at timerFits
    rw [timerFits] at timer
    refine ⟨blast, ?_, between, Nat.le_refl _, Nat.le_refl _, fun _ _ interval => absurd atOnce interval⟩
    rw [step, if_neg (by rw [timer]; decide)]
  · rw [if_neg atOnce] at timerFits
    rw [timerFits] at timer
    have running : blast.blaster.running := by
      rw [between.sending.blaster]
      exact canSend.running
    obtain ⟨made, makes, sending, same, puts, isThere⟩ := @makeNext_sending world started _ canSend
      (between.sending.withTimer (some false))
    obtain ⟨next, loops, sending', progress, -, more⟩ := @onCanPut_sending world _ canSend fuel _ sending enough
    have accepted := progress.accepted
    have later := progress.puts
    rw [same] at accepted
    rw [puts] at later
    refine ⟨next.scheduled, ?_, ⟨sending'.withTimer (some true), timerFits.symm, fun _ interval => absurd interval atOnce⟩,
      accepted, later, fun memory accepts _ less => ?_⟩
    · rw [step, if_pos timer, onTimerFired, if_neg (not_not_intro running), makes, ok_bind, loops]
      rfl
    · have grows := more (accepts.later (Nat.le_of_eq puts.symm)) (isThere (memory _) (by rw [same]; exact less))
      rw [same] at grows
      exact grows

theorem step_between (canSend : CanSend started) (timerFits : TimerFits started) {fuel : Nat} {blast : Blast}
    (between : Between world started blast) (enough : started.maxPacketCount < fuel) (event : Event) :
    ∃ next, blast.step world fuel event = .ok next ∧ Between world started next ∧
      blast.accepted.length ≤ next.accepted.length ∧ blast.puts ≤ next.puts ∧
      ((∀ i, world.memory i) → Accepts world blast.puts → event = drive started →
        blast.accepted.length < started.maxPacketCount → blast.accepted.length < next.accepted.length) := by
  cases event with
  | canPut =>
      obtain ⟨next, puts, sending, progress, ready, more⟩ := @onCanPut_sending world _ canSend fuel _ between.sending enough
      refine ⟨next, puts, ⟨sending, progress.timer.trans between.timer, fun memory atOnce => ?_⟩, progress.accepted,
        progress.puts, fun memory accepts isDrive less => ?_⟩
      · exact ready memory atOnce (between.ready memory atOnce)
      · have atOnce : started.sendInterval = 0 := by
          simp only [drive] at isDrive
          by_contra other
          rw [if_neg other] at isDrive
          cases isDrive
        exact more accepts (fun none => absurd (between.ready memory atOnce none) (Nat.ne_of_lt less))
  | tick =>
      obtain ⟨next, fires, between', accepted, puts, more⟩ := tick_between canSend timerFits between enough
      refine ⟨next, fires, between', accepted, puts, fun memory accepts isDrive less => ?_⟩
      have interval : started.sendInterval ≠ 0 := by
        intro atOnce
        simp only [drive, if_pos atOnce] at isDrive
        cases isDrive
      exact more memory accepts interval less

theorem steps_between (canSend : CanSend started) (timerFits : TimerFits started) {fuel : Nat} {blast : Blast}
    (between : Between world started blast) (enough : started.maxPacketCount < fuel) (events : List Event) :
    ∃ next, events.foldlM (step world fuel) blast = .ok next ∧ Between world started next := by
  refine Runs.run_goes ?_ between fun event _ => trivial
  intro blast event between _
  obtain ⟨next, steps, between', -⟩ := step_between canSend timerFits between enough event
  exact ⟨next, steps, between'⟩

/-- With as many events as the blaster waits for, a sink that accepts gets so many packets more. -/
theorem drives_between (canSend : CanSend started) (timerFits : TimerFits started) {fuel : Nat} {blast : Blast}
    (between : Between world started blast) (enough : started.maxPacketCount < fuel) (memory : ∀ i, world.memory i)
    (accepts : Accepts world blast.puts) (n : Nat) :
    ∃ next, (List.replicate n (drive started)).foldlM (step world fuel) blast = .ok next ∧ Between world started next ∧
      min started.maxPacketCount (blast.accepted.length + n) ≤ next.accepted.length := by
  induction n generalizing blast with
  | zero => exact ⟨blast, rfl, between, Nat.min_le_right _ _⟩
  | succ n ih =>
      obtain ⟨next, steps, between', accepted, puts, more⟩ :=
        step_between canSend timerFits between enough (drive started)
      obtain ⟨last, runs, between'', grows⟩ := ih between' (accepts.later puts)
      refine ⟨last, ?_, between'', ?_⟩
      · rw [List.replicate_succ, List.foldlM_cons, steps]
        exact runs
      · by_cases less : blast.accepted.length < started.maxPacketCount
        · have one := more memory accepts rfl less
          omega
        · omega

theorem start_between {blaster : BlasterDataSource} (canSend : CanSend blaster.started) {fuel : Nat}
    (enough : blaster.maxPacketCount < fuel) :
    ∃ first, start world fuel ⟨blaster.setDataSink, 0, 0, []⟩ = .ok first ∧ Between world blaster.started first := by
  have fresh : Sending blaster.started ⟨blaster.started, 0, 0, []⟩ :=
    ⟨rfl, Nat.zero_le _, fun _ _ => nofun, fun _ => nofun⟩
  obtain ⟨made, makes, sending, same, puts, timer, ready⟩ := @nextPacket_sending world _ _ canSend fresh rfl
  obtain ⟨first, loops, sending', progress, readyAfter, -⟩ := @onCanPut_sending world _ canSend fuel _ sending enough
  refine ⟨first, ?_, sending', progress.timer.trans timer, fun memory atOnce => ?_⟩
  · simp only [start]
    exact (congrArg (· >>= onCanPut world fuel) makes).trans loops
  · exact readyAfter memory atOnce (ready (memory _))

end Blast

end Sending

/-! ## Packets -/

section Packets

/-- How many bits the counter of a format has. -/
def PacketFormat.counterBits : PacketFormat → Nat
  | .basicCounter => 32
  | .ipCounter => 16

/-- The number that a packet bears. -/
def PacketFormat.number : PacketFormat → List UInt8 → Nat
  | .basicCounter, b0 :: b1 :: b2 :: b3 :: _ => (bytesToInt32Be b0 b1 b2 b3).toNat
  | .ipCounter, _ :: _ :: _ :: _ :: hi :: lo :: _ => (bytesToInt16Be hi lo).toNat
  | _, _ => 0

/-- If a packet is marked as the last one. -/
def PacketFormat.isLast : PacketFormat → List UInt8 → Bool
  | .basicCounter, packet => PacketFormat.number .basicCounter packet = 0xFFFFFFFF
  | .ipCounter, _ :: _ :: _ :: _ :: _ :: _ :: flags :: _ => flags &&& 0x40 = 0
  | .ipCounter, _ => false

/-- A packet has the number, as far as the counter goes, and is marked if it is the last one. The last one has its mark for
a number in the basic format. -/
structure Numbered (format : PacketFormat) (maxPacketCount number : Nat) (packet : List UInt8) : Prop where
  isLast : format.isLast packet ↔ number + 1 = maxPacketCount
  number : number + 1 ≠ maxPacketCount ∨ format = .ipCounter →
    format.number packet = number % 2 ^ format.counterBits

/-- So many packets can be told apart, with the mark of the last one. -/
def PacketFormat.counted : PacketFormat → Nat
  | .basicCounter => 2 ^ 32
  | .ipCounter => 2 ^ 16 + 1

variable {blaster : BlasterDataSource}

/-- A basic packet has its counter, and then a pattern without zeros where an IP header has some. -/
theorem basicPacket_parts (large : 20 ≤ blaster.packetSize) :
    ∃ rest, blaster.pattern 4 = [4, 5, 6, 7, 8, 9, 10, 11, 12, 13, 14, 15, 16, 17, 18, 19] ++ rest := by
  obtain ⟨more, isMore⟩ := Nat.exists_eq_add_of_le large
  refine ⟨(List.range' 20 more).map UInt8.ofNat, ?_⟩
  have size : blaster.packetSize - 4 = more + 16 := by omega
  rw [BlasterDataSource.pattern, size]
  rfl

theorem isIpPacket_basic (counter : UInt32) :
    PerfDataSink.isIpPacket (bytesFromInt32Be counter ++ blaster.pattern 4) = .ok false := by
  by_cases large : 20 ≤ blaster.packetSize
  · obtain ⟨rest, isPattern⟩ := @basicPacket_parts blaster large
    rw [isPattern]
    simp [PerfDataSink.isIpPacket, bytesFromInt32Be, load, loadBytes]
  · have short : ¬ (bytesFromInt32Be counter ++ blaster.pattern 4).length ≥ 20 := by
      simp [BlasterDataSource.pattern, bytesFromInt32Be]
      omega
    rw [PerfDataSink.isIpPacket, if_neg short]

theorem parse_basic (counter : UInt32) :
    PerfDataSink.parseCounterPacket (bytesFromInt32Be counter ++ blaster.pattern 4) = .ok counter := by
  rw [PerfDataSink.parseCounterPacket, isIpPacket_basic, ok_bind]
  exact congrArg Except.ok (bytesToInt32Be_from counter)

/-- The counter of a basic packet. -/
theorem basicCounter_eq {maxPacketCount number : Nat} (few : maxPacketCount ≤ 2 ^ 32) (less : number < maxPacketCount) :
    (if (UInt32.ofNat number + 1).toNat = maxPacketCount then 0xFFFFFFFF else UInt32.ofNat number) =
      if number + 1 = maxPacketCount then PerfDataSink.lastPacketCounter else UInt32.ofNat number := by
  have small : number % 2 ^ 32 = number := Nat.mod_eq_of_lt (Nat.lt_of_lt_of_le less few)
  have next : (UInt32.ofNat number + 1).toNat = (number + 1) % 2 ^ 32 := by
    simp [UInt32.toNat_add]
  rw [next]
  by_cases isLast : number + 1 = maxPacketCount
  · rw [if_pos isLast]
    by_cases full : maxPacketCount = 2 ^ 32
    · -- the last counter is the mark of the last packet itself
      have isMark : number = 0xFFFFFFFF := by omega
      rw [isMark]
      split <;> rfl
    · rw [isLast, Nat.mod_eq_of_lt (Nat.lt_of_le_of_ne few full), if_pos rfl]
      rfl
  · rw [if_neg isLast, if_neg]
    by_cases wraps : number + 1 = 2 ^ 32
    · rw [wraps]
      omega
    · rw [Nat.mod_eq_of_lt (by omega)]
      exact isLast

/-- The header that a blaster makes is recognized. -/
theorem parse_ip {size₁ size₂ : UInt8} (hi lo flags : UInt8) (rest : List UInt8)
    (length : (bytesToInt16Be size₁ size₂).toNat = rest.length + 20) :
    PerfDataSink.parseCounterPacket ([0x45, 0, size₁, size₂, hi, lo, flags] ++ List.replicate 13 0 ++ rest) =
      .ok (if flags &&& 0x40 = 0 then PerfDataSink.lastPacketCounter else (bytesToInt16Be hi lo).toUInt32) := by
  have isIp : PerfDataSink.isIpPacket ([0x45, 0, size₁, size₂, hi, lo, flags] ++ List.replicate 13 0 ++ rest) =
      .ok true := by
    simp only [List.cons_append, List.nil_append, List.replicate]
    rw [PerfDataSink.isIpPacket, if_pos (by simp)]
    simp only [load, loadBytes, List.getElem?_cons_zero, List.getElem?_cons_succ, ok_bind]
    rw [if_pos (by simp), ok_bind, length]
    simp
  rw [PerfDataSink.parseCounterPacket, isIp, ok_bind]
  rfl

/-- The flags of an IP packet say if it is the last one. -/
def ipFlags (blaster : BlasterDataSource) (number : Nat) : UInt8 :=
  if number + 1 ≠ blaster.maxPacketCount then 0x80 ||| 0x40 else 0x80

theorem ipFlags_last (number : Nat) : ipFlags blaster number &&& 0x40 = 0 ↔ number + 1 = blaster.maxPacketCount := by
  rw [ipFlags]
  by_cases isLast : number + 1 = blaster.maxPacketCount
  · rw [if_neg (not_not_intro isLast)]
    exact ⟨fun _ => isLast, fun _ => by decide⟩
  · rw [if_pos isLast]
    exact ⟨fun none => absurd none (by decide), fun is => absurd is isLast⟩

/-- The counter that a sink is to find in a packet. -/
def PacketFormat.counter (format : PacketFormat) (maxPacketCount number : Nat) : UInt32 :=
  if number + 1 = maxPacketCount then PerfDataSink.lastPacketCounter else UInt32.ofNat (number % 2 ^ format.counterBits)

theorem packet_basic (format : blaster.packetFormat = .basicCounter) (large : 4 ≤ blaster.packetSize) (number : Nat) :
    blaster.packet number = .ok (bytesFromInt32Be (if (UInt32.ofNat number + 1).toNat = blaster.maxPacketCount
      then 0xFFFFFFFF else UInt32.ofNat number) ++ blaster.pattern 4) := by
  simp only [BlasterDataSource.packet, BlasterDataSource.fillPacket, format]
  rw [BlasterDataSource.fillBasicPacket, assert_of (by exact large)]
  rfl

theorem packet_ip (format : blaster.packetFormat = .ipCounter) (large : 20 ≤ blaster.packetSize) (number : Nat) :
    blaster.packet number = .ok ([0x45, 0, UInt8.ofNat (blaster.packetSize >>> 8), UInt8.ofNat blaster.packetSize,
      UInt8.ofNat (number >>> 8), UInt8.ofNat number, ipFlags blaster number] ++ List.replicate 13 0 ++
        blaster.pattern 20) := by
  simp only [BlasterDataSource.packet, BlasterDataSource.fillPacket, format]
  rw [BlasterDataSource.fillIpPacket, assert_of (by exact large)]
  rfl

/-- In both formats, a packet is made. -/
theorem packet_made (large : BlasterDataSource.packetMinSize blaster.packetFormat ≤ blaster.packetSize) (number : Nat) :
    ∃ packet, blaster.packet number = .ok packet := by
  cases format : blaster.packetFormat with
  | basicCounter =>
      rw [format] at large
      exact ⟨_, packet_basic format large number⟩
  | ipCounter =>
      rw [format] at large
      exact ⟨_, packet_ip format large number⟩

theorem packet_length (large : BlasterDataSource.packetMinSize blaster.packetFormat ≤ blaster.packetSize) {number : Nat}
    {packet : List UInt8} (isPacket : blaster.packet number = .ok packet) : packet.length = blaster.packetSize := by
  cases format : blaster.packetFormat with
  | basicCounter =>
      rw [format, BlasterDataSource.packetMinSize] at large
      rw [packet_basic format large] at isPacket
      cases isPacket
      simp [bytesFromInt32Be, BlasterDataSource.pattern]
      omega
  | ipCounter =>
      rw [format, BlasterDataSource.packetMinSize] at large
      rw [packet_ip format large] at isPacket
      cases isPacket
      simp [BlasterDataSource.pattern]
      omega

/-- The number and the mark of a packet can be read. -/
theorem packet_numbered (large : BlasterDataSource.packetMinSize blaster.packetFormat ≤ blaster.packetSize)
    (few : blaster.packetFormat = .basicCounter → blaster.maxPacketCount ≤ 2 ^ 32) {number : Nat}
    (less : number < blaster.maxPacketCount) {packet : List UInt8} (isPacket : blaster.packet number = .ok packet) :
    Numbered blaster.packetFormat blaster.maxPacketCount number packet := by
  cases format : blaster.packetFormat with
  | basicCounter =>
      rw [format] at large
      rw [packet_basic format large, basicCounter_eq (few format) less] at isPacket
      cases isPacket
      have small : number < 2 ^ 32 := Nat.lt_of_lt_of_le less (few format)
      have reads (counter : UInt32) :
          PacketFormat.number .basicCounter (bytesFromInt32Be counter ++ blaster.pattern 4) = counter.toNat :=
        congrArg UInt32.toNat (bytesToInt32Be_from counter)
      have whole : (UInt32.ofNat number).toNat = number := by
        rw [UInt32.toNat_ofNat', Nat.mod_eq_of_lt small]
      by_cases isLast : number + 1 = blaster.maxPacketCount
      · rw [if_pos isLast]
        refine ⟨⟨fun _ => isLast, fun _ => ?_⟩, fun other => ?_⟩
        · simp only [PacketFormat.isLast, reads]
          rfl
        · cases other with
          | inl other => exact absurd isLast other
          | inr other => cases other
      · rw [if_neg isLast]
        refine ⟨⟨fun isMark => ?_, fun is => absurd is isLast⟩, fun _ => ?_⟩
        · simp only [PacketFormat.isLast, reads, whole, decide_eq_true_eq] at isMark
          have limit := few format
          omega
        · rw [reads, whole]
          exact (Nat.mod_eq_of_lt small).symm
  | ipCounter =>
      rw [format] at large
      rw [packet_ip format large] at isPacket
      cases isPacket
      refine ⟨?_, fun _ => ?_⟩
      · exact (decide_eq_true_iff).trans (ipFlags_last number)
      · simp only [List.cons_append, PacketFormat.number, toNat_bytesToInt16Be, byte_at, PacketFormat.counterBits]
        rw [UInt8.toNat_ofNat']
        omega

/-- A sink finds the counter of a packet. -/
theorem packet_parsed (large : BlasterDataSource.packetMinSize blaster.packetFormat ≤ blaster.packetSize)
    (small : blaster.packetSize ≤ 65535) (few : blaster.packetFormat = .basicCounter → blaster.maxPacketCount ≤ 2 ^ 32)
    {number : Nat} (less : number < blaster.maxPacketCount) {packet : List UInt8}
    (isPacket : blaster.packet number = .ok packet) :
    PerfDataSink.parseCounterPacket packet = .ok (blaster.packetFormat.counter blaster.maxPacketCount number) := by
  cases format : blaster.packetFormat with
  | basicCounter =>
      rw [format] at large
      rw [packet_basic format large, basicCounter_eq (few format) less] at isPacket
      cases isPacket
      rw [parse_basic, PacketFormat.counter, PacketFormat.counterBits,
        Nat.mod_eq_of_lt (Nat.lt_of_lt_of_le less (few format))]
  | ipCounter =>
      rw [format] at large
      rw [packet_ip format large] at isPacket
      cases isPacket
      have size : (bytesToInt16Be (UInt8.ofNat (blaster.packetSize >>> 8)) (UInt8.ofNat blaster.packetSize)).toNat =
          (blaster.pattern 20).length + 20 := by
        have enough : 20 ≤ blaster.packetSize := large
        rw [toNat_bytesToInt16Be, byte_at, UInt8.toNat_ofNat', BlasterDataSource.pattern, List.length_map,
          List.length_range']
        omega
      have number : (bytesToInt16Be (UInt8.ofNat (number >>> 8)) (UInt8.ofNat number)).toUInt32 =
          UInt32.ofNat (number % 2 ^ 16) := by
        rw [← UInt32.toNat_inj, UInt16.toNat_toUInt32, toNat_bytesToInt16Be, byte_at, UInt8.toNat_ofNat',
          UInt32.toNat_ofNat']
        omega
      rw [parse_ip _ _ _ _ size, number]
      simp only [ipFlags_last, PacketFormat.counter, PacketFormat.counterBits]

end Packets

/-! ## Receiving -/

namespace PerfDataSink

/-- What a sink that counts is after so many of the packets: the first one starts the clock. -/
structure Counted (maxPacketCount : Nat) (sink : PerfDataSink) (number : Nat) : Prop where
  mode : sink.mode = .basicOrIpCounter
  noReset : sink.options &&& optionAutoResetStats = 0
  gapCount : sink.stats.gapCount = 0
  packetsReceived : sink.stats.packetsReceived = number - 1
  startTime : sink.startTime = 0 ↔ number = 0
  last : number < maxPacketCount → sink.stats.lastReceivedCounter ≠ lastPacketCounter
  next : 0 < number → number < maxPacketCount → sink.stats.nextExpectedCounter = UInt32.ofNat number

variable {sink : PerfDataSink} {maxPacketCount number : Nat}

theorem onDataProbeReportReady_noReset (noReset : sink.options &&& optionAutoResetStats = 0) :
    sink.onDataProbeReportReady = sink.callProbe .getReport := by
  have same : (sink.callProbe .getReport).options &&& optionAutoResetStats = 0 := noReset
  rw [onDataProbeReportReady, if_neg (not_not_intro same)]

/-- The counters of packets do not change when a packet is counted. -/
structure SameCounters (sink next : PerfDataSink) : Prop where
  mode : next.mode = sink.mode
  options : next.options = sink.options
  target : next.hasPassthroughTarget = sink.hasPassthroughTarget
  gapCount : next.stats.gapCount = sink.stats.gapCount
  last : next.stats.lastReceivedCounter = sink.stats.lastReceivedCounter
  next : next.stats.nextExpectedCounter = sink.stats.nextExpectedCounter

theorem updateStats_noReset (noReset : sink.options &&& optionAutoResetStats = 0) (delivery : Delivery) :
    SameCounters sink (sink.updateStats delivery) ∧
      (sink.startTime = 0 → (sink.updateStats delivery).startTime = delivery.now ∧
        (sink.updateStats delivery).stats.packetsReceived = sink.stats.packetsReceived) ∧
      (sink.startTime ≠ 0 → (sink.updateStats delivery).startTime = sink.startTime ∧
        (sink.updateStats delivery).stats.packetsReceived = sink.stats.packetsReceived + 1) := by
  by_cases fresh : sink.startTime = 0
  · rw [updateStats, if_neg (not_not_intro fresh)]
    exact ⟨⟨rfl, rfl, rfl, rfl, rfl, rfl⟩, fun _ => ⟨rfl, rfl⟩, fun other => absurd fresh other⟩
  · rw [updateStats, if_pos fresh]
    cases reports : delivery.reports with
    | false => exact ⟨⟨rfl, rfl, rfl, rfl, rfl, rfl⟩, fun other => absurd other fresh, fun _ => ⟨rfl, rfl⟩⟩
    | true =>
        have same := @onDataProbeReportReady_noReset (callProbe { sink with stats := { sink.stats with
          bytesReceived := sink.stats.bytesReceived + delivery.packet.length
          packetsReceived := sink.stats.packetsReceived + 1 } }
          (.accumulateWithTime delivery.packet.length delivery.now)) noReset
        simp only [if_true, same]
        exact ⟨⟨rfl, rfl, rfl, rfl, rfl, rfl⟩, fun other => absurd other fresh, fun _ => ⟨rfl, rfl⟩⟩

/-- What comes after the check for gaps. -/
def finish (sink : PerfDataSink) (delivery : Delivery) : PerfDataSink :=
  let sink := sink.updateStats delivery
  if sink.stats.lastReceivedCounter = lastPacketCounter then (sink.callProbe .forceReport).onDataProbeReportReady else sink

theorem finish_noReset (noReset : sink.options &&& optionAutoResetStats = 0) (delivery : Delivery) :
    SameCounters sink (sink.finish delivery) ∧
      (sink.startTime = 0 → (sink.finish delivery).startTime = delivery.now ∧
        (sink.finish delivery).stats.packetsReceived = sink.stats.packetsReceived) ∧
      (sink.startTime ≠ 0 → (sink.finish delivery).startTime = sink.startTime ∧
        (sink.finish delivery).stats.packetsReceived = sink.stats.packetsReceived + 1) := by
  have updates := updateStats_noReset noReset delivery
  have noReset' : ((sink.updateStats delivery).callProbe .forceReport).options &&& optionAutoResetStats = 0 := by
    have same := updates.1.options
    simpa only [callProbe, same] using noReset
  have reports := onDataProbeReportReady_noReset noReset'
  simp only [finish]
  split
  · rw [reports]
    exact ⟨⟨updates.1.mode, updates.1.options, updates.1.target, updates.1.gapCount, updates.1.last, updates.1.next⟩,
      updates.2⟩
  · exact updates

/-- A sink as it looks at the next packet. -/
def restarted (sink : PerfDataSink) : PerfDataSink :=
  if sink.stats.lastReceivedCounter = lastPacketCounter then sink.resetStats else sink

/-- A packet whose counter is found. -/
theorem receive_counter (mode : sink.mode = .basicOrIpCounter) {delivery : Delivery} {counter : UInt32}
    (parses : parseCounterPacket delivery.packet = .ok counter) :
    sink.receive delivery = .ok ((sink.restarted.checkGaps counter).finish delivery) := by
  have mode' : sink.restarted.mode = .basicOrIpCounter := by
    rw [restarted]
    split
    · exact mode
    · exact mode
  rw [restarted] at mode'
  simp only [receive, mode', parses, ok_bind]
  rfl

theorem counter_last (format : PacketFormat) (isLast : number + 1 = maxPacketCount) :
    format.counter maxPacketCount number = lastPacketCounter :=
  if_pos isLast

/-- Before the last packet, the counters are the numbers, none of them is the mark, and only the first one is zero. -/
theorem counter_before {format : PacketFormat} (counted : maxPacketCount ≤ format.counted)
    (before : number + 1 < maxPacketCount) :
    format.counter maxPacketCount number = UInt32.ofNat number ∧ UInt32.ofNat number ≠ lastPacketCounter ∧
      (UInt32.ofNat number = 0 ↔ number = 0) := by
  have small : number < 2 ^ format.counterBits ∧ number < 0xFFFFFFFF := by
    cases format with
    | basicCounter =>
        simp only [PacketFormat.counted] at counted
        simp only [PacketFormat.counterBits]
        omega
    | ipCounter =>
        simp only [PacketFormat.counted] at counted
        simp only [PacketFormat.counterBits]
        omega
  have whole : (UInt32.ofNat number).toNat = number := by
    rw [UInt32.toNat_ofNat']
    omega
  refine ⟨?_, ?_, ?_⟩
  · rw [PacketFormat.counter, if_neg (Nat.ne_of_lt before), Nat.mod_eq_of_lt small.1]
  · intro same
    have numbers := congrArg UInt32.toNat same
    rw [whole] at numbers
    exact absurd numbers (Nat.ne_of_lt small.2)
  · rw [← UInt32.toNat_inj, whole]
    rfl

/-- A packet is counted once its counter is right. -/
theorem finish_counted (mode : sink.mode = .basicOrIpCounter) (noReset : sink.options &&& optionAutoResetStats = 0)
    (gapCount : sink.stats.gapCount = 0) (packetsReceived : sink.stats.packetsReceived = number - 1)
    (startTime : sink.startTime = 0 ↔ number = 0)
    (more : number + 1 < maxPacketCount → sink.stats.lastReceivedCounter ≠ lastPacketCounter ∧
      sink.stats.nextExpectedCounter = UInt32.ofNat (number + 1))
    {delivery : Delivery} (positive : delivery.now ≠ 0) : Counted maxPacketCount (sink.finish delivery) (number + 1) := by
  obtain ⟨same, fresh, counting⟩ := finish_noReset noReset delivery
  have updates : (sink.finish delivery).startTime ≠ 0 ∧ (sink.finish delivery).stats.packetsReceived = number := by
    by_cases first : sink.startTime = 0
    · obtain ⟨time, packets⟩ := fresh first
      have zero := startTime.mp first
      rw [time, packets, packetsReceived]
      exact ⟨positive, by omega⟩
    · obtain ⟨time, packets⟩ := counting first
      have other := mt startTime.mpr first
      rw [time, packets, packetsReceived]
      exact ⟨first, by omega⟩
  exact {
    mode := same.mode.trans mode
    noReset := same.options ▸ noReset
    gapCount := same.gapCount.trans gapCount
    packetsReceived := updates.2
    startTime := ⟨fun zero => absurd zero updates.1, fun zero => absurd zero (Nat.succ_ne_zero number)⟩
    last := fun before => same.last ▸ (more before).1
    next := fun _ before => same.next.trans (more before).2 }

/-- What the check for gaps leaves alone. -/
structure Checked (sink next : PerfDataSink) : Prop where
  mode : next.mode = sink.mode
  options : next.options = sink.options
  target : next.hasPassthroughTarget = sink.hasPassthroughTarget

theorem checkGaps_last (sink : PerfDataSink) :
    Checked sink (sink.checkGaps lastPacketCounter) ∧
      (sink.checkGaps lastPacketCounter).stats.gapCount = sink.stats.gapCount ∧
      (sink.checkGaps lastPacketCounter).stats.packetsReceived = sink.stats.packetsReceived ∧
      (sink.checkGaps lastPacketCounter).startTime = sink.startTime := by
  rw [checkGaps, if_pos rfl]
  exact ⟨⟨rfl, rfl, rfl⟩, rfl, rfl, rfl⟩

/-- Packet 0 resets the stats. -/
theorem checkGaps_zero (sink : PerfDataSink) :
    Checked sink (sink.checkGaps 0) ∧ (sink.checkGaps 0).stats = ⟨0, 0, 0, 1, 0, 0⟩ ∧
      (sink.checkGaps 0).startTime = 0 := by
  rw [checkGaps, if_neg (by decide), if_pos rfl]
  exact ⟨⟨rfl, rfl, rfl⟩, rfl, rfl⟩

/-- There is no gap before the packet that is expected. -/
theorem checkGaps_expected {counter : UInt32} (notMark : counter ≠ lastPacketCounter) (notZero : counter ≠ 0)
    (expected : sink.stats.nextExpectedCounter = counter) :
    Checked sink (sink.checkGaps counter) ∧ (sink.checkGaps counter).stats.gapCount = sink.stats.gapCount ∧
      (sink.checkGaps counter).stats.packetsReceived = sink.stats.packetsReceived ∧
      (sink.checkGaps counter).startTime = sink.startTime ∧
      (sink.checkGaps counter).stats.lastReceivedCounter = counter ∧
      (sink.checkGaps counter).stats.nextExpectedCounter = counter + 1 := by
  subst expected
  rw [checkGaps, if_neg notMark, if_neg notZero]
  exact ⟨⟨rfl, rfl, rfl⟩, by simp, rfl, rfl, rfl, rfl⟩

theorem receive_counted {format : PacketFormat} (counts : Counted maxPacketCount sink number)
    (counted : maxPacketCount ≤ format.counted) (less : number < maxPacketCount) {delivery : Delivery}
    (parses : parseCounterPacket delivery.packet = .ok (format.counter maxPacketCount number))
    (positive : delivery.now ≠ 0) :
    ∃ next, sink.receive delivery = .ok next ∧ Counted maxPacketCount next (number + 1) ∧
      next.hasPassthroughTarget = sink.hasPassthroughTarget := by
  have noReset {checked : PerfDataSink} (check : Checked sink checked) : checked.options &&& optionAutoResetStats = 0 :=
    check.options ▸ counts.noReset
  have target {checked : PerfDataSink} (check : Checked sink checked) :
      (checked.finish delivery).hasPassthroughTarget = sink.hasPassthroughTarget :=
    (finish_noReset (noReset check) delivery).1.target.trans check.target
  have goesOn : sink.restarted = sink := if_neg (counts.last less)
  refine ⟨_, receive_counter counts.mode parses, ?_⟩
  rw [goesOn]
  by_cases isLast : number + 1 = maxPacketCount
  · -- the last packet has the mark, and no counter
    rw [counter_last format isLast]
    obtain ⟨check, gaps, packets, time⟩ := checkGaps_last sink
    refine ⟨finish_counted (check.mode.trans counts.mode) (noReset check) (gaps.trans counts.gapCount)
      (packets.trans counts.packetsReceived) (time ▸ counts.startTime) (fun before => ?_) positive, target check⟩
    exact absurd isLast (Nat.ne_of_lt before)
  · have before : number + 1 < maxPacketCount := Nat.lt_of_le_of_ne less isLast
    obtain ⟨isCounter, notMark, isZero⟩ := counter_before counted before
    rw [isCounter]
    by_cases first : number = 0
    · subst first
      obtain ⟨check, stats, time⟩ := checkGaps_zero sink
      refine ⟨finish_counted (check.mode.trans counts.mode) (noReset check) ?_ ?_ ?_ (fun _ => ?_) positive, target check⟩
      · exact congrArg PerfDataSinkStats.gapCount stats
      · exact congrArg PerfDataSinkStats.packetsReceived stats
      · exact ⟨fun _ => rfl, fun _ => time⟩
      · rw [stats]
        exact ⟨by decide, rfl⟩
    · obtain ⟨check, gaps, packets, time, last, next⟩ :=
        checkGaps_expected notMark (mt isZero.mp first) (counts.next (Nat.pos_of_ne_zero first) less)
      refine ⟨finish_counted (check.mode.trans counts.mode) (noReset check) (gaps.trans counts.gapCount)
        (packets.trans counts.packetsReceived) (time ▸ counts.startTime) (fun _ => ⟨?_, ?_⟩) positive, target check⟩
      · rw [last]
        exact notMark
      · rw [next]
        simp

theorem checkGaps_checked (sink : PerfDataSink) (counter : UInt32) : Checked sink (sink.checkGaps counter) := by
  simp only [checkGaps]
  split
  · exact ⟨rfl, rfl, rfl⟩
  · split
    · exact ⟨rfl, rfl, rfl⟩
    · exact ⟨rfl, rfl, rfl⟩

/-- A delivery is received if no target refuses it. -/
def takes (hasTarget : Bool) (delivery : Delivery) : Bool := ! hasTarget || delivery.target = .ok ()

theorem putData_taken {delivery : Delivery} (taken : takes sink.hasPassthroughTarget delivery) {next : PerfDataSink}
    (receives : sink.receive delivery = .ok next) : sink.putData delivery = .ok (.ok (), next) := by
  cases has : sink.hasPassthroughTarget with
  | false =>
      simp only [putData, has, receives, ok_bind]
  | true =>
      rw [has] at taken
      have accepts : delivery.target = .ok () := by simpa [takes] using taken
      simp only [putData, has, accepts, receives, ok_bind]

/-- A packet that the target refuses is only counted as such. -/
theorem putData_refused {delivery : Delivery} (refused : takes sink.hasPassthroughTarget delivery = false)
    (counts : Counted maxPacketCount sink number) :
    ∃ e next, sink.putData delivery = .ok (.error e, next) ∧ Counted maxPacketCount next number ∧
      next.hasPassthroughTarget = sink.hasPassthroughTarget := by
  cases has : sink.hasPassthroughTarget with
  | false =>
      rw [has] at refused
      cases refused
  | true =>
      rw [has] at refused
      cases answer : delivery.target with
      | ok _ => simp [takes, answer] at refused
      | error e =>
          simp only [putData, has, answer]
          refine ⟨e, _, rfl, ?_, ?_⟩
          · split
            · exact ⟨counts.mode, counts.noReset, counts.gapCount, counts.packetsReceived, counts.startTime,
                counts.last, counts.next⟩
            · exact counts
          · split
            · rfl
            · exact has

theorem putAll_cons {delivery : Delivery} {deliveries : List Delivery} {result : Except Error Unit} {next : PerfDataSink}
    (puts : sink.putData delivery = .ok (result, next)) : sink.putAll (delivery :: deliveries) = next.putAll deliveries := by
  rw [putAll, List.foldlM_cons, puts]
  rfl

/-- The rest of the packets is counted. -/
theorem putAll_counted {format : PacketFormat} (counted : maxPacketCount ≤ format.counted) {hasTarget : Bool}
    {deliveries : List Delivery} (positive : ∀ delivery ∈ deliveries, delivery.now ≠ 0)
    (counts : Counted maxPacketCount sink number) (has : sink.hasPassthroughTarget = hasTarget)
    (few : number ≤ maxPacketCount) {packets : List (List UInt8)} (length : number + packets.length = maxPacketCount)
    (taken : (deliveries.filter (takes hasTarget)).map Delivery.packet = packets)
    (parses : ∀ k packet, packets[k]? = some packet →
      parseCounterPacket packet = .ok (format.counter maxPacketCount (number + k))) :
    ∃ last, sink.putAll deliveries = .ok last ∧ Counted maxPacketCount last maxPacketCount := by
  induction deliveries generalizing sink number packets with
  | nil =>
      have none : packets = [] := taken.symm
      subst none
      have done : number = maxPacketCount := length
      exact ⟨sink, rfl, done ▸ counts⟩
  | cons delivery deliveries ih =>
      have later : ∀ delivery ∈ deliveries, delivery.now ≠ 0 :=
        fun delivery isLater => positive delivery (List.mem_cons_of_mem _ isLater)
      cases takes_ : takes hasTarget delivery with
      | false =>
          rw [List.filter_cons_of_neg (by simp [takes_])] at taken
          obtain ⟨e, next, puts, counts', has'⟩ := putData_refused (has ▸ takes_) counts
          obtain ⟨last, putsRest, countsLast⟩ := ih later counts' (has'.trans has) few length taken parses
          exact ⟨last, (putAll_cons puts).trans putsRest, countsLast⟩
      | true =>
          rw [List.filter_cons_of_pos takes_, List.map_cons] at taken
          subst taken
          simp only [List.length_cons, List.length_map] at length
          obtain ⟨next, receives, counts', has'⟩ := receive_counted counts counted (by omega)
            (parses 0 delivery.packet rfl) (positive delivery List.mem_cons_self)
          obtain ⟨last, putsRest, countsLast⟩ := ih later counts' (has'.trans has) (by omega)
            (by simp only [List.length_map]; omega) rfl (fun k packet isPacket => by
              rw [Nat.add_assoc, Nat.add_comm 1 k]
              exact parses (k + 1) packet isPacket)
          exact ⟨last, (putAll_cons (putData_taken (has ▸ takes_) receives)).trans putsRest, countsLast⟩

theorem create_counted (options : UInt32) (noReset : options &&& optionAutoResetStats = 0) (hasTarget : Bool)
    (maxPacketCount : Nat) :
    Counted maxPacketCount ((create .basicOrIpCounter options).setPassthroughTarget hasTarget) 0 :=
  ⟨rfl, noReset, rfl, rfl, ⟨fun _ => rfl, fun _ => rfl⟩, fun _ => (by decide : (0 : UInt32) ≠ lastPacketCounter),
    fun some => absurd some (Nat.lt_irrefl 0)⟩

/-- A sink that counts goes on to do so. -/
theorem receive_checked (mode : sink.mode = .basicOrIpCounter) (noReset : sink.options &&& optionAutoResetStats = 0)
    {delivery : Delivery} {next : PerfDataSink} (receives : sink.receive delivery = .ok next) : Checked sink next := by
  have restarts : Checked sink sink.restarted := by
    rw [restarted]
    split
    · exact ⟨rfl, rfl, rfl⟩
    · exact ⟨rfl, rfl, rfl⟩
  cases parses : parseCounterPacket delivery.packet with
  | error e =>
      have mode' := restarts.mode.trans mode
      rw [restarted] at mode'
      simp only [receive, mode', parses] at receives
      cases receives
  | ok counter =>
      rw [receive_counter mode parses] at receives
      cases receives
      have checks := checkGaps_checked sink.restarted counter
      have options := checks.options.trans restarts.options
      obtain ⟨same, -⟩ := @finish_noReset (sink.restarted.checkGaps counter) (options ▸ noReset) delivery
      exact ⟨same.mode.trans (checks.mode.trans restarts.mode), same.options.trans options,
        same.target.trans (checks.target.trans restarts.target)⟩

theorem putAll_checked (mode : sink.mode = .basicOrIpCounter) (noReset : sink.options &&& optionAutoResetStats = 0)
    (noTarget : sink.hasPassthroughTarget = false) {deliveries : List Delivery} {next : PerfDataSink}
    (puts : sink.putAll deliveries = .ok next) : Checked sink next := by
  induction deliveries generalizing sink with
  | nil =>
      cases puts
      exact ⟨rfl, rfl, rfl⟩
  | cons delivery deliveries ih =>
      rw [putAll, List.foldlM_cons] at puts
      obtain ⟨between, isBetween, puts⟩ := bind_ok puts
      have receives : sink.receive delivery = .ok between := by
        simp only [putData, noTarget] at isBetween
        cases receives : sink.receive delivery with
        | error e =>
            rw [receives] at isBetween
            cases isBetween
        | ok other =>
            rw [receives] at isBetween
            exact isBetween
      have first := receive_checked mode noReset receives
      have rest := ih (first.mode.trans mode) (first.options ▸ noReset) (first.target.trans noTarget) puts
      exact ⟨rest.mode.trans first.mode, rest.options.trans first.options, rest.target.trans first.target⟩

/-- A packet that a sink takes for the first one, and the last one behind it, leave one that is counted. -/
theorem putAll_restarts (mode : sink.mode = .basicOrIpCounter) (noReset : sink.options &&& optionAutoResetStats = 0)
    (noTarget : sink.hasPassthroughTarget = false) {first last : Delivery}
    (parsesFirst : parseCounterPacket first.packet = .ok 0)
    (parsesLast : parseCounterPacket last.packet = .ok lastPacketCounter) (positive : first.now ≠ 0) :
    ∃ next, sink.putAll [first, last] = .ok next ∧ next.stats.packetsReceived = 1 := by
  have receives := receive_counter mode parsesFirst
  obtain ⟨check, stats, time⟩ := checkGaps_zero sink.restarted
  have checked := receive_checked mode noReset receives
  have noReset₁ : (sink.restarted.checkGaps 0).options &&& optionAutoResetStats = 0 := by
    rw [check.options, restarted]
    split
    · exact noReset
    · exact noReset
  obtain ⟨same, starts, -⟩ := finish_noReset noReset₁ first
  obtain ⟨now, packets⟩ := starts time
  -- one packet has been received, and starts the clock
  generalize (sink.restarted.checkGaps 0).finish first = between at receives checked same now packets
  have receives' := receive_counter (checked.mode.trans mode) parsesLast
  have goesOn : between.restarted = between := by
    rw [restarted, same.last, stats]
    rfl
  rw [goesOn] at receives'
  obtain ⟨check', -, packets', time'⟩ := checkGaps_last between
  have noReset₂ : (between.checkGaps lastPacketCounter).options &&& optionAutoResetStats = 0 := by
    rw [check'.options, checked.options]
    exact noReset
  obtain ⟨-, -, counts⟩ := finish_noReset noReset₂ last
  obtain ⟨-, packets''⟩ := counts (by rw [time', now]; exact positive)
  refine ⟨_, ?_, packets''.trans ?_⟩
  · rw [putAll_cons (putData_taken (by simp [takes, noTarget]) receives),
      putAll_cons (putData_taken (by simp [takes, checked.target, noTarget]) receives')]
    rfl
  · rw [packets', packets, stats]

end PerfDataSink

/-! ## Blasters and sinks -/

namespace BlasterDataSource

variable {blaster : BlasterDataSource}

/-- However a sink answers, it accepts the packets in order, each once, and only the last one is marked. As soon as it
accepts all that it gets, it gets the rest. -/
structure Sends (blaster : BlasterDataSource) : Prop where
  inOrder : ∀ world fuel events, blaster.maxPacketCount < fuel →
    ∃ blast, Blast.run world fuel blaster events = .ok blast ∧ blast.accepted.length ≤ blaster.maxPacketCount ∧
      ∀ k packet, blast.accepted[k]? = some packet →
        packet.length = blaster.packetSize ∧ Numbered blaster.packetFormat blaster.maxPacketCount k packet
  finishes : ∀ world fuel events blast, blaster.maxPacketCount < fuel → (∀ i, world.memory i) →
    Blast.run world fuel blaster events = .ok blast → Blast.Accepts world blast.puts →
    ∃ last, Blast.run world fuel blaster (events ++ List.replicate blaster.maxPacketCount (Blast.drive blaster)) = .ok last ∧
      last.accepted.length = blaster.maxPacketCount

/-- A fresh sink that counts, with a target or without, gets the packets that have been accepted, and finds no gap. -/
def Received (blaster : BlasterDataSource) : Prop :=
  ∀ world fuel events blast, blaster.maxPacketCount < fuel → Blast.run world fuel blaster events = .ok blast →
    blast.accepted.length = blaster.maxPacketCount →
    ∀ options hasTarget deliveries, options &&& PerfDataSink.optionAutoResetStats = 0 →
      (∀ delivery ∈ deliveries, delivery.now ≠ 0) →
      (deliveries.filter (PerfDataSink.takes hasTarget)).map Delivery.packet = blast.accepted →
      ∃ sink, ((PerfDataSink.create .basicOrIpCounter options).setPassthroughTarget hasTarget).putAll deliveries =
          .ok sink ∧
        sink.stats.gapCount = 0 ∧ sink.stats.packetsReceived = blaster.maxPacketCount - 1

/-- What `GG_BlasterDataSource_Create` has checked. -/
structure Created (blaster : BlasterDataSource) : Prop where
  large : packetMinSize blaster.packetFormat ≤ blaster.packetSize
  timer : Blast.TimerFits blaster.started

theorem create_fields {packetSize : Nat} {packetFormat : PacketFormat} {maxPacketCount : Nat} {hasTimerScheduler : Bool}
    {sendInterval : UInt32}
    (creates : create packetSize packetFormat maxPacketCount hasTimerScheduler sendInterval = .ok blaster) :
    Created blaster ∧ blaster.packetSize = packetSize ∧ blaster.packetFormat = packetFormat ∧
      blaster.maxPacketCount = maxPacketCount := by
  rw [create] at creates
  split at creates
  · cases creates
  · split at creates
    · cases creates
    · next large =>
      split at creates
      · cases creates
      · cases creates
        refine ⟨⟨Nat.le_of_not_lt large, ?_⟩, rfl, rfl, rfl⟩
        by_cases atOnce : sendInterval = 0
        · simp [Blast.TimerFits, started, setDataSink, atOnce]
        · simp [Blast.TimerFits, started, setDataSink, atOnce]

theorem canSend (created : Created blaster) (some : 0 < blaster.maxPacketCount) : Blast.CanSend blaster.started :=
  ⟨rfl, rfl, some, packet_made created.large⟩

theorem run_between (created : Created blaster) (some : 0 < blaster.maxPacketCount) (world : BlastWorld) {fuel : Nat}
    (enough : blaster.maxPacketCount < fuel) (events : List Blast.Event) :
    ∃ blast, Blast.run world fuel blaster events = .ok blast ∧ Blast.Between world blaster.started blast := by
  obtain ⟨first, starts, between⟩ := @Blast.start_between world blaster (canSend created some) fuel enough
  obtain ⟨blast, steps, between'⟩ := Blast.steps_between (canSend created some) created.timer between enough events
  refine ⟨blast, ?_, between'⟩
  rw [Blast.run, starts, ok_bind, steps]

theorem sends (created : Created blaster) (some : 0 < blaster.maxPacketCount)
    (few : blaster.packetFormat = .basicCounter → blaster.maxPacketCount ≤ 2 ^ 32) : Sends blaster where
  inOrder world fuel events enough := by
    obtain ⟨blast, runs, between⟩ := run_between created some world enough events
    refine ⟨blast, runs, between.sending.few, fun k packet isPacket => ?_⟩
    have makes := between.sending.accepted k packet isPacket
    have inside : k < blast.accepted.length := (List.getElem?_eq_some_iff.mp isPacket).1
    exact ⟨@packet_length blaster.started created.large _ _ makes,
      @packet_numbered blaster.started created.large few _ (Nat.lt_of_lt_of_le inside between.sending.few) _ makes⟩
  finishes world fuel events blast enough memory runs accepts := by
    obtain ⟨other, runs', between⟩ := run_between created some world enough events
    rw [runs] at runs'
    cases runs'
    obtain ⟨last, drives, between', many⟩ := Blast.drives_between (canSend created some) created.timer between enough
      memory accepts blaster.maxPacketCount
    refine ⟨last, ?_, ?_⟩
    · obtain ⟨first, starts, steps⟩ := bind_ok runs
      rw [Blast.run, starts, ok_bind, List.foldlM_append, steps]
      exact drives
    · have all := between'.sending.few
      have count : blaster.started.maxPacketCount = blaster.maxPacketCount := rfl
      omega

theorem accepted_parsed (created : Created blaster) (some : 0 < blaster.maxPacketCount)
    (small : blaster.packetSize ≤ 65535) (few : blaster.packetFormat = .basicCounter → blaster.maxPacketCount ≤ 2 ^ 32)
    (world : BlastWorld) {fuel : Nat} (enough : blaster.maxPacketCount < fuel) {events : List Blast.Event} {blast : Blast}
    (runs : Blast.run world fuel blaster events = .ok blast) (k : Nat) (packet : List UInt8)
    (isPacket : blast.accepted[k]? = .some packet) : PerfDataSink.parseCounterPacket packet =
      .ok (blaster.packetFormat.counter blaster.maxPacketCount k) := by
  obtain ⟨other, runs', between⟩ := run_between created some world enough events
  rw [runs] at runs'
  cases runs'
  have makes := between.sending.accepted k packet isPacket
  have inside : k < blast.accepted.length := (List.getElem?_eq_some_iff.mp isPacket).1
  exact @packet_parsed blaster.started created.large small few _ (Nat.lt_of_lt_of_le inside between.sending.few) _ makes

theorem received (created : Created blaster) (some : 0 < blaster.maxPacketCount) (small : blaster.packetSize ≤ 65535)
    (counted : blaster.maxPacketCount ≤ blaster.packetFormat.counted) : Received blaster := by
  intro world fuel events blast enough runs all options hasTarget deliveries noReset positive taken
  have few : blaster.packetFormat = .basicCounter → blaster.maxPacketCount ≤ 2 ^ 32 := by
    intro format
    rw [format] at counted
    exact counted
  have parses := accepted_parsed created some small few world enough runs
  obtain ⟨sink, puts, counts⟩ := PerfDataSink.putAll_counted counted positive
    (PerfDataSink.create_counted options noReset hasTarget _) rfl (Nat.zero_le _) ((Nat.zero_add _).trans all) taken
    (fun k packet isPacket => (Nat.zero_add k).symm ▸ parses k packet isPacket)
  exact ⟨sink, puts, counts.gapCount, counts.packetsReceived⟩

/-- A blaster does what it is for, and so does the sink. -/
structure Agrees (blaster : BlasterDataSource) : Prop where
  sends : Sends blaster
  received : Received blaster

/-- The packets of a blaster arrive in order, up to 2^32 of them in the basic format, and are counted as long as the
counter of the format can tell them apart. -/
theorem blaster_sink_agree {packetSize : Nat} {packetFormat : PacketFormat} {maxPacketCount : Nat}
    {hasTimerScheduler : Bool} {sendInterval : UInt32}
    (creates : create packetSize packetFormat maxPacketCount hasTimerScheduler sendInterval = .ok blaster)
    (some : 0 < maxPacketCount) (small : packetSize ≤ 65535)
    (few : packetFormat = .basicCounter → maxPacketCount ≤ 2 ^ 32) :
    Sends blaster ∧ (maxPacketCount ≤ packetFormat.counted → Received blaster) := by
  obtain ⟨created, rfl, rfl, rfl⟩ := create_fields creates
  exact ⟨sends created some few, received created some small⟩

theorem blaster_sink_agree_three :
    ∃ blaster, create 20 .ipCounter 3 true 10 = .ok blaster ∧ 0 < 3 ∧ 20 ≤ 65535 ∧ Sends blaster ∧
      (3 ≤ PacketFormat.ipCounter.counted → Received blaster) := by
  have creates : create 20 .ipCounter 3 true 10 = .ok ⟨false, none, some false, 10, 20, 0, 3, false, .ipCounter⟩ := rfl
  exact ⟨_, creates, by decide, by decide, blaster_sink_agree creates (by decide) (by decide) nofun⟩

theorem last_two {α : Type} (list : List α) {n : Nat} (length : list.length = n + 2) :
    ∃ front first last, list = front ++ [first, last] ∧ list[n]? = some first ∧ list[n + 1]? = some last := by
  refine ⟨list.take n, list[n], list[n + 1], ?_, List.getElem?_eq_getElem (by omega), List.getElem?_eq_getElem (by omega)⟩
  have rest : list.drop n = [list[n], list[n + 1]] := by
    rw [List.drop_eq_getElem_cons (by omega), List.drop_eq_getElem_cons (by omega), List.drop_eq_nil_of_le (by omega)]
  rw [← rest, List.take_append_drop]

/-- With one packet more than the counter can tell apart, a sink takes packet 65536 for the first one. -/
theorem not_agrees_wrapped : ∃ blaster, create 20 .ipCounter 65538 false 0 = .ok blaster ∧ ¬ Agrees blaster := by
  have creates : create 20 .ipCounter 65538 false 0 = .ok ⟨false, none, none, 0, 20, 0, 65538, false, .ipCounter⟩ := rfl
  obtain ⟨created, -⟩ := create_fields creates
  refine ⟨_, creates, fun agrees => ?_⟩
  -- the sink of the blaster accepts all the packets
  let world : BlastWorld := ⟨fun _ => .ok (), fun _ => true⟩
  obtain ⟨first, starts, -⟩ := agrees.sends.inOrder world 65539 [] (by decide)
  obtain ⟨blast, runs, all⟩ := agrees.sends.finishes world 65539 [] first (by decide) (fun _ => rfl) starts
    (fun _ _ => rfl)
  have parses := accepted_parsed created (by decide) (by decide) nofun world (by decide) runs
  let deliver (packet : List UInt8) : Delivery := ⟨packet, .ok (), 1, false⟩
  have taken : ((blast.accepted.map deliver).filter (PerfDataSink.takes false)).map Delivery.packet = blast.accepted := by
    have all : (blast.accepted.map deliver).filter (PerfDataSink.takes false) = blast.accepted.map deliver :=
      List.filter_eq_self.mpr (fun _ _ => rfl)
    rw [all, List.map_map]
    exact List.map_id _
  obtain ⟨sink, puts, -, many⟩ := agrees.received world 65539 _ blast (by decide) runs all 0 false
    (blast.accepted.map deliver) rfl (by simp [deliver]) taken
  -- packet 65536 has the counter zero, and the last one has its mark
  obtain ⟨front, first, last, isAll, isFirst, isLast⟩ := last_two blast.accepted all
  rw [isAll, List.map_append, PerfDataSink.putAll, List.foldlM_append] at puts
  obtain ⟨between, putsFront, putsTwo⟩ := bind_ok puts
  have check := @PerfDataSink.putAll_checked _ rfl rfl rfl _ _ putsFront
  obtain ⟨next, restarts, one⟩ := @PerfDataSink.putAll_restarts between check.mode (check.options ▸ rfl) check.target
    (deliver first) (deliver last) (parses 65536 first isFirst) (parses 65537 last isLast)
    (by decide : (1 : UInt64) ≠ 0)
  have same : sink = next := by
    have both := putsTwo.symm.trans restarts
    exact Except.ok.inj both
  rw [same, one] at many
  exact absurd many (by decide)

end BlasterDataSource

end GoldenGate
