import GoldenGate.Lib.Memory
import GoldenGate.Lib.Runs
import Mathlib.Data.Rat.Floor

/-! # Data probes

The embedding of `gg_data_probe.c`, where a probe counts the bytes that go through it, in total and in a
window of time, from samples that it keeps in a circular array. A `double` is an exact number here. A
report after a reset tells of the samples before it, as the reset forgets all but how many there are.
-/

namespace GoldenGate

open Memory Runs

/-! ## Numbers -/

/-- A `double`, if it is a number. -/
abbrev Double := Option ℚ

namespace Double

def add : Double → Double → Double
  | some x, some y => some (x + y)
  | _, _ => none

def mul : Double → Double → Double
  | some x, some y => some (x * y)
  | _, _ => none

/-- A division by zero has no number. -/
def div : Double → Double → Double
  | some x, some y => if y = 0 then none else some (x / y)
  | _, _ => none

def ofUInt32 (n : UInt32) : Double := some (n.toNat : ℚ)

def ofUInt64 (n : UInt64) : Double := some (n.toNat : ℚ)

/-- `(uint32_t)x`, which is not defined for what is no number or too large. -/
def toUInt32 : Double → Access UInt32
  | some x => if -1 < x ∧ x < 2 ^ 32 then .ok (UInt32.ofNat x.floor.toNat) else .error .undefined
  | none => .error .undefined

end Double

/-! ## Probes -/

/-- `GG_DataProbeSample`. -/
structure DataProbeSample where
  time : UInt64
  byteCount : Double
  deriving DecidableEq

/-- `GG_DataProbeReport`. -/
structure DataProbeReport where
  totalBytes : UInt64
  totalThroughput : UInt32
  totalThroughputPeak : UInt32
  windowThroughput : UInt32
  windowThroughputPeak : UInt32
  windowBytesSecond : UInt32
  windowBytesSecondPeak : UInt32
  time : UInt64
  deriving Repr, DecidableEq

/-- `GG_DataProbe`. -/
structure DataProbe where
  options : UInt32
  bufferSampleCount : UInt32
  windowSizeMs : UInt32
  reportIntervalMs : UInt32
  samples : List DataProbeSample
  oldestSampleIndex : UInt16
  numSamples : UInt32
  totalBytesCount : UInt32
  report : DataProbeReport
  lastResetTime : UInt64
  hasListener : Bool
  deriving DecidableEq

namespace DataProbe

/-- `GG_DATA_PROBE_OPTION_TOTAL_THROUGHPUT` and so on. -/
def optionTotalThroughput : UInt32 := 1
def optionWindowThroughput : UInt32 := 2
def optionWindowIntegral : UInt32 := 4

/-- `GG_NANOSECONDS_PER_MILLISECOND`. -/
def nanosecondsPerMillisecond : UInt64 := 1000000

/-- `GG_NANOSECONDS_PER_SECOND` and `GG_MILLISECONDS_PER_SECOND`. -/
def nanosecondsPerSecond : Double := some 1000000000
def millisecondsPerSecond : Double := some 1000

/-- `GG_DataProbe_ResetWithTime`. -/
def resetWithTime (probe : DataProbe) (time : UInt64) : DataProbe :=
  { probe with
    report := ⟨0, 0, 0, 0, 0, 0, 0, time⟩
    totalBytesCount := 0
    lastResetTime := time
    oldestSampleIndex := 0 }

/-- `GG_DataProbe_Create`, where there is memory, at some time. -/
def create (options bufferSampleCount windowSizeMs reportIntervalMs : UInt32) (hasListener : Bool) (time : UInt64) :
    Access DataProbe := do
  let samples := List.replicate bufferSampleCount.toNat ⟨0, some 0⟩
  if windowSizeMs > 0 then assert (bufferSampleCount > 1)
  let probe : DataProbe := ⟨options, bufferSampleCount, windowSizeMs, reportIntervalMs, samples, 0, 0, 0,
    ⟨0, 0, 0, 0, 0, 0, 0, 0⟩, 0, hasListener⟩
  .ok (probe.resetWithTime time)

/-- `GG_PROBE_SAFE_INDEX`. -/
def safeIndex (probe : DataProbe) (index increment : UInt32) : UInt32 := (index + increment) % probe.bufferSampleCount

/-- `self->samples[index]`. -/
def sample (probe : DataProbe) (index : UInt32) : Access DataProbeSample :=
  match probe.samples[index.toNat]? with
  | none => .error .outOfBounds
  | some sample => .ok sample

def setSample (probe : DataProbe) (index : UInt32) (sample : DataProbeSample) : Access DataProbe :=
  if index.toNat < probe.samples.length then .ok { probe with samples := probe.samples.set index.toNat sample }
  else .error .outOfBounds

/-- The start of the window. -/
def windowStartTime (probe : DataProbe) (now : UInt64) : UInt64 :=
  now - probe.windowSizeMs.toUInt64 * nanosecondsPerMillisecond

/-- The loop of `GG_DataProbe_TrimWindow`, where the index is cut off at 16 bits. -/
def trimLoop (windowStartTime : UInt64) : Nat → DataProbe → Access DataProbe
  | 0, _ => .error .diverges
  | fuel + 1, probe =>
      if probe.numSamples > 1 then do
        let index := (probe.safeIndex probe.oldestSampleIndex.toUInt32 1).toUInt16
        let sample ← probe.sample index.toUInt32
        let fewer := { probe with oldestSampleIndex := index, numSamples := probe.numSamples - 1 }
        if sample.time ≥ windowStartTime then .ok probe else trimLoop windowStartTime fuel fewer
      else .ok probe

/-- `GG_DataProbe_TrimWindow`. -/
def trimWindow (probe : DataProbe) (now : UInt64) : Access DataProbe := do
  assert (probe.windowSizeMs ≠ 0)
  assert (probe.bufferSampleCount ≠ 0)
  trimLoop (probe.windowStartTime now) (probe.numSamples.toNat + 1) probe

/-- So many samples, from an index on. -/
def samplesFrom (probe : DataProbe) : Nat → UInt32 → Access (List DataProbeSample)
  | 0, _ => .ok []
  | n + 1, index => do
      let sample ← probe.sample index
      let others ← probe.samplesFrom n (probe.safeIndex index 1)
      .ok (sample :: others)

/-- The samples that the loops go over, the oldest one first. -/
def liveSamples (probe : DataProbe) : Access (List DataProbeSample) :=
  probe.samplesFrom probe.numSamples.toNat probe.oldestSampleIndex.toUInt32

/-- The loop of `GG_DataProbe_CalculateWindowIntegral`, and the contribution of the last sample. -/
def totalByteNanos (now windowStartTime : UInt64) (lastCount : Double) (lastTime : UInt64) (total : Double) :
    Bool → List DataProbeSample → Double
  | _, [] => total.add (.mul (.ofUInt64 (now - lastTime)) lastCount)
  | firstSampleFound, sample :: samples =>
      if sample.time > now then total.add (.mul (.ofUInt64 (now - lastTime)) lastCount)
      else if sample.time < windowStartTime then
        totalByteNanos now windowStartTime sample.byteCount lastTime total true samples
      else if firstSampleFound then
        let total := total.add (.mul (.ofUInt64 (sample.time - lastTime)) lastCount)
        totalByteNanos now windowStartTime sample.byteCount sample.time total true samples
      else totalByteNanos now windowStartTime sample.byteCount sample.time total true samples

/-- The integral of the window, in bytes and nanoseconds. -/
def windowByteNanos (probe : DataProbe) (now : UInt64) : Access Double := do
  let samples ← probe.liveSamples
  let start := probe.windowStartTime now
  .ok (totalByteNanos now start (some 0) start (some 0) false samples)

/-- `GG_DataProbe_CalculateWindowIntegral`. -/
def calculateWindowIntegral (probe : DataProbe) (now : UInt64) : Access DataProbe := do
  assert (probe.windowSizeMs ≠ 0)
  assert (probe.bufferSampleCount ≠ 0)
  let total ← probe.windowByteNanos now
  let windowBytesSecond ← Double.toUInt32 (total.div nanosecondsPerSecond)
  .ok { probe with report := { probe.report with
    windowBytesSecond := windowBytesSecond
    windowBytesSecondPeak := max probe.report.windowBytesSecondPeak windowBytesSecond } }

/-- The loop of `GG_DataProbe_CalculateWindowThroughput`. -/
def windowByteCount (windowStartTime : UInt64) (count : UInt32) : List DataProbeSample → Access UInt32
  | [] => .ok count
  | sample :: samples =>
      if sample.time < windowStartTime then windowByteCount windowStartTime count samples
      else do
        let byteCount ← sample.byteCount.toUInt32
        windowByteCount windowStartTime (count + byteCount) samples

/-- `GG_DataProbe_CalculateWindowThroughput`. -/
def calculateWindowThroughput (probe : DataProbe) (now : UInt64) : Access DataProbe := do
  assert (probe.windowSizeMs ≠ 0)
  assert (probe.bufferSampleCount ≠ 0)
  let count ← windowByteCount (probe.windowStartTime now) 0 (← probe.liveSamples)
  let seconds := (Double.ofUInt32 probe.windowSizeMs).div millisecondsPerSecond
  let windowThroughput ← Double.toUInt32 ((Double.ofUInt32 count).div seconds)
  .ok { probe with report := { probe.report with
    windowThroughput := windowThroughput
    windowThroughputPeak := max probe.report.windowThroughputPeak windowThroughput } }

/-- `GG_DataProbe_CalculateTotalThroughput`. -/
def calculateTotalThroughput (probe : DataProbe) (now : UInt64) : Access DataProbe :=
  let interval := now - probe.lastResetTime
  if interval = 0 then .ok probe
  else do
    let seconds := (Double.ofUInt64 interval).div nanosecondsPerSecond
    let totalThroughput ← Double.toUInt32 ((Double.ofUInt32 probe.totalBytesCount).div seconds)
    .ok { probe with report := { probe.report with
      totalThroughput := totalThroughput
      totalThroughputPeak := max probe.report.totalThroughputPeak totalThroughput } }

/-- A calculation that an option of the probe asks for. -/
def whenAsked (probe : DataProbe) (option : UInt32) (calculate : DataProbe → Access DataProbe) : Access DataProbe :=
  if probe.options &&& option ≠ 0 then calculate probe else .ok probe

/-- `GG_DataProbe_GetReportWithTime`. -/
def getReportWithTime (probe : DataProbe) (time : UInt64) : Access DataProbe := do
  let probe ← probe.whenAsked optionTotalThroughput (calculateTotalThroughput · time)
  let probe ← probe.whenAsked optionWindowThroughput (calculateWindowThroughput · time)
  let probe ← probe.whenAsked optionWindowIntegral (calculateWindowIntegral · time)
  .ok { probe with report := { probe.report with totalBytes := probe.totalBytesCount.toUInt64, time := time } }

/-- The mean of two samples, by the times up to the next ones. -/
def squashedByteCount (previous target : DataProbeSample) (time : UInt64) : Double :=
  let previousBytes := previous.byteCount.mul (.ofUInt64 (target.time - previous.time))
  let targetBytes := target.byteCount.mul (.ofUInt64 (time - target.time))
  (previousBytes.add targetBytes).div (.ofUInt64 (time - previous.time))

/-- What `GG_DataProbe_AccumulateWithTime` does when the array is full: the last sample is replaced, and the one
    before it squashed. -/
def replaceSample (probe : DataProbe) (byteCount time : UInt64) : Access DataProbe := do
  let target := probe.safeIndex probe.oldestSampleIndex.toUInt32 (probe.numSamples - 1)
  let targetSample ← probe.sample target
  assert (time ≥ targetSample.time)
  let previous := probe.safeIndex probe.oldestSampleIndex.toUInt32 (probe.numSamples - 2)
  let previousSample ← probe.sample previous
  let squashed := squashedByteCount previousSample targetSample time
  let probe ← probe.setSample previous { previousSample with byteCount := squashed }
  probe.setSample target ⟨time, .ofUInt64 byteCount⟩

/-- What it does when there is room. -/
def addSample (probe : DataProbe) (byteCount time : UInt64) : Access DataProbe := do
  let target := probe.safeIndex probe.oldestSampleIndex.toUInt32 probe.numSamples
  let targetSample ← probe.sample target
  assert (time ≥ targetSample.time)
  { probe with numSamples := probe.numSamples + 1 }.setSample target ⟨time, .ofUInt64 byteCount⟩

/-- What it does with the window. -/
def storeSample (probe : DataProbe) (byteCount time : UInt64) : Access DataProbe := do
  assert (probe.bufferSampleCount > 1)
  let probe ← probe.trimWindow time
  if probe.numSamples = probe.bufferSampleCount then probe.replaceSample byteCount time
  else probe.addSample byteCount time

def countBytes (probe : DataProbe) (byteCount : UInt64) : DataProbe :=
  { probe with totalBytesCount := probe.totalBytesCount + byteCount.toUInt32 }

/-- `GG_DataProbe_AccumulateWithTime`, and whether the listener is told of a new report. -/
def accumulateWithTime (probe : DataProbe) (byteCount time : UInt64) : Access (DataProbe × Bool) := do
  assert (probe.lastResetTime ≠ 0)
  assert (time ≥ probe.lastResetTime)
  assert (time ≥ probe.report.time)
  let probe := probe.countBytes byteCount
  let probe ← (if probe.windowSizeMs ≠ 0 then probe.storeSample byteCount time else .ok probe : Access DataProbe)
  let elapsed := (time - probe.report.time) / nanosecondsPerMillisecond
  .ok (probe, probe.hasListener && elapsed ≥ probe.reportIntervalMs.toUInt64)

/-! ## Histories -/

/-- A sample is accumulated, the probe is reset, and a report is made, at some time. -/
inductive Step where
  | sample (byteCount time : UInt64)
  | reset (time : UInt64)
  | report (time : UInt64)
  deriving DecidableEq

def step (probe : DataProbe) : Step → Access DataProbe
  | .sample byteCount time => do .ok (← probe.accumulateWithTime byteCount time).1
  | .reset time => .ok (probe.resetWithTime time)
  | .report time => probe.getReportWithTime time

def run (probe : DataProbe) (steps : List Step) : Access DataProbe := steps.foldlM step probe

/-- The report after some steps. -/
def reportAfter (probe : DataProbe) (steps : List Step) (time : UInt64) : Access DataProbeReport := do
  let probe ← probe.run steps
  .ok (← probe.getReportWithTime time).report

/-! ## Samples -/

/-- The array of a probe has the size that it was created with. -/
structure Sized (probe : DataProbe) : Prop where
  size : probe.samples.length = probe.bufferSampleCount.toNat
  room : probe.windowSizeMs ≠ 0 → 1 < probe.bufferSampleCount
  fits : probe.numSamples ≤ probe.bufferSampleCount

/-- A probe with another report. -/
def withReport (probe : DataProbe) (report : DataProbeReport) : DataProbe := { probe with report := report }

/-- A probe with other samples. -/
def withSamples (probe : DataProbe) (samples : List DataProbeSample) (oldest : UInt16) (num : UInt32) : DataProbe :=
  { probe with samples := samples, oldestSampleIndex := oldest, numSamples := num }

section Samples

variable {probe : DataProbe}

theorem Sized.countBytes (sized : Sized probe) (byteCount : UInt64) : Sized (probe.countBytes byteCount) :=
  ⟨sized.size, sized.room, sized.fits⟩

theorem Sized.reset (sized : Sized probe) (time : UInt64) : Sized (probe.resetWithTime time) :=
  ⟨sized.size, sized.room, sized.fits⟩

theorem Sized.withReport (sized : Sized probe) (report : DataProbeReport) : Sized (probe.withReport report) :=
  ⟨sized.size, sized.room, sized.fits⟩

theorem safeIndex_lt (some_ : probe.bufferSampleCount ≠ 0) (index increment : UInt32) :
    (probe.safeIndex index increment).toNat < probe.bufferSampleCount.toNat := by
  unfold safeIndex
  rw [UInt32.toNat_mod]
  exact Nat.mod_lt _ (Nat.pos_of_ne_zero fun zero => some_ (UInt32.toNat_inj.mp zero))

theorem sample_ok {index : UInt32} (inside : index.toNat < probe.samples.length) :
    probe.sample index = .ok probe.samples[index.toNat] := by
  unfold sample
  rw [List.getElem?_eq_getElem inside]

theorem setSample_ok {index : UInt32} (inside : index.toNat < probe.samples.length) (sample : DataProbeSample) :
    probe.setSample index sample = .ok { probe with samples := probe.samples.set index.toNat sample } :=
  if_pos inside

/-- Trimming goes through, and leaves no more samples. -/
theorem trimLoop_ok (some_ : probe.bufferSampleCount ≠ 0) (size : probe.samples.length = probe.bufferSampleCount.toNat)
    (start : UInt64) {fuel : Nat} (enough : probe.numSamples.toNat < fuel) :
    ∃ oldest num, trimLoop start fuel probe = .ok (probe.withSamples probe.samples oldest num) ∧
      num ≤ probe.numSamples := by
  induction fuel generalizing probe with
  | zero => exact absurd enough (Nat.not_lt_zero _)
  | succ fuel ih =>
      unfold trimLoop
      by_cases more : probe.numSamples > 1
      · have inside : (probe.safeIndex probe.oldestSampleIndex.toUInt32 1).toUInt16.toUInt32.toNat <
            probe.samples.length := by
          have small := safeIndex_lt some_ probe.oldestSampleIndex.toUInt32 1
          rw [UInt16.toNat_toUInt32, UInt32.toNat_toUInt16, size]
          exact Nat.lt_of_le_of_lt (Nat.mod_le _ _) small
        rw [if_pos more]
        dsimp only
        rw [sample_ok inside, ok_bind]
        split
        · exact ⟨_, _, rfl, UInt32.le_refl _⟩
        · have fewer : (probe.numSamples - 1).toNat = probe.numSamples.toNat - 1 :=
            UInt32.toNat_sub_of_le _ _ (UInt32.le_of_lt more)
          have left : (probe.numSamples - 1).toNat < fuel := by
            have := UInt32.lt_iff_toNat_lt.mp more
            omega
          obtain ⟨oldest, num, trims, small⟩ := @ih { probe with
            oldestSampleIndex := (probe.safeIndex probe.oldestSampleIndex.toUInt32 1).toUInt16
            numSamples := probe.numSamples - 1 } some_ size left
          refine ⟨oldest, num, trims, UInt32.le_trans small ?_⟩
          rw [UInt32.le_iff_toNat_le, fewer]
          exact Nat.sub_le _ _
      · rw [if_neg more]
        exact ⟨_, _, rfl, UInt32.le_refl _⟩

theorem Sized.some_ (sized : Sized probe) (window : probe.windowSizeMs ≠ 0) : probe.bufferSampleCount ≠ 0 := by
  intro zero
  have room := sized.room window
  rw [zero] at room
  exact absurd room (by decide)

theorem trimWindow_ok (sized : Sized probe) (window : probe.windowSizeMs ≠ 0) (now : UInt64) :
    ∃ oldest num, probe.trimWindow now = .ok (probe.withSamples probe.samples oldest num) ∧ num ≤ probe.numSamples := by
  have some_ := sized.some_ window
  unfold trimWindow
  rw [assert_of (by simpa using window), ok_bind, assert_of (by simpa using some_), ok_bind]
  exact trimLoop_ok some_ sized.size _ (Nat.lt_succ_self _)

/-- What `storeSample` makes of a probe. -/
inductive Stores (probe : DataProbe) (byteCount time : UInt64) : Access DataProbe → Prop where
  | late {sample : DataProbeSample} (is : sample ∈ probe.samples) (late : time < sample.time) :
      Stores probe byteCount time (.error .assertion)
  | stored {samples : List DataProbeSample} {oldest : UInt16} {num : UInt32}
      (size : samples.length = probe.samples.length) (fits : num ≤ probe.bufferSampleCount) (some_ : num ≠ 0)
      (times : ∀ sample ∈ samples, sample.time = time ∨ ∃ old ∈ probe.samples, sample.time = old.time) :
      Stores probe byteCount time (.ok (probe.withSamples samples oldest num))

/-- The times in an array after a sample is set. -/
theorem times_set {samples : List DataProbeSample} {index : Nat} {new sample : DataProbeSample}
    (is : sample ∈ samples.set index new) : sample.time = new.time ∨ ∃ old ∈ samples, sample.time = old.time := by
  cases List.mem_or_eq_of_mem_set is with
  | inl old => exact .inr ⟨sample, old, rfl⟩
  | inr new => exact .inl (congrArg DataProbeSample.time new)

/-- The index of a sample, counted from the oldest one. -/
def indexOf (probe : DataProbe) (increment : UInt32) : Nat :=
  (probe.safeIndex probe.oldestSampleIndex.toUInt32 increment).toNat

theorem getElem?_indexOf (some_ : probe.bufferSampleCount ≠ 0)
    (size : probe.samples.length = probe.bufferSampleCount.toNat) (increment : UInt32) :
    ∃ sample, probe.samples[probe.indexOf increment]? = some sample :=
  ⟨_, List.getElem?_eq_getElem (size ▸ safeIndex_lt some_ _ _)⟩

/-- The array when the last sample is replaced. -/
def replaced (samples : List DataProbeSample) (target previous : Nat) (last beforeLast : DataProbeSample)
    (byteCount time : UInt64) : List DataProbeSample :=
  (samples.set previous { beforeLast with byteCount := squashedByteCount beforeLast last time }).set target
    ⟨time, .ofUInt64 byteCount⟩

theorem replaceSample_eq {last beforeLast : DataProbeSample}
    (isLast : probe.samples[probe.indexOf (probe.numSamples - 1)]? = some last)
    (isBefore : probe.samples[probe.indexOf (probe.numSamples - 2)]? = some beforeLast) (byteCount time : UInt64) :
    probe.replaceSample byteCount time = (do
      assert (time ≥ last.time)
      .ok (probe.withSamples (replaced probe.samples (probe.indexOf (probe.numSamples - 1))
        (probe.indexOf (probe.numSamples - 2)) last beforeLast byteCount time) probe.oldestSampleIndex
        probe.numSamples)) := by
  obtain ⟨insideLast, isLast⟩ := List.getElem?_eq_some_iff.mp isLast
  obtain ⟨insideBefore, isBefore⟩ := List.getElem?_eq_some_iff.mp isBefore
  unfold indexOf at *
  unfold replaceSample
  dsimp only
  rw [sample_ok insideLast, ok_bind, sample_ok insideBefore, ok_bind, setSample_ok insideBefore, ok_bind, setSample_ok,
    isLast, isBefore]
  · rfl
  · rw [List.length_set]
    exact insideLast

theorem addSample_eq {free : DataProbeSample} (isFree : probe.samples[probe.indexOf probe.numSamples]? = some free)
    (byteCount time : UInt64) :
    probe.addSample byteCount time = (do
      assert (time ≥ free.time)
      .ok (probe.withSamples (probe.samples.set (probe.indexOf probe.numSamples) ⟨time, .ofUInt64 byteCount⟩)
        probe.oldestSampleIndex (probe.numSamples + 1))) := by
  obtain ⟨inside, isFree⟩ := List.getElem?_eq_some_iff.mp isFree
  unfold indexOf at *
  unfold addSample
  dsimp only
  rw [sample_ok inside, ok_bind, setSample_ok, isFree]
  · rfl
  · exact inside

theorem stores_replaceSample (some_ : probe.bufferSampleCount ≠ 0)
    (size : probe.samples.length = probe.bufferSampleCount.toNat) (fits : probe.numSamples ≤ probe.bufferSampleCount)
    (notNone : probe.numSamples ≠ 0) (byteCount time : UInt64) :
    Stores probe byteCount time (probe.replaceSample byteCount time) := by
  obtain ⟨last, isLast⟩ := getElem?_indexOf some_ size (probe.numSamples - 1)
  obtain ⟨beforeLast, isBefore⟩ := getElem?_indexOf some_ size (probe.numSamples - 2)
  rw [replaceSample_eq isLast isBefore]
  by_cases late : time < last.time
  · have fails : assert (time ≥ last.time) = .error .assertion := by simpa [assert] using late
    rw [fails]
    exact .late (List.mem_of_getElem? isLast) late
  · rw [assert_of (UInt64.not_lt.mp late)]
    refine .stored ?_ fits notNone fun sample is => ?_
    · simp [replaced]
    · cases times_set is with
      | inl new => exact .inl new
      | inr old =>
          obtain ⟨old, isOld, same⟩ := old
          cases times_set isOld with
          | inl before => exact .inr ⟨_, List.mem_of_getElem? isBefore, same.trans before⟩
          | inr older =>
              obtain ⟨older, isOlder, same'⟩ := older
              exact .inr ⟨older, isOlder, same.trans same'⟩

theorem stores_addSample (some_ : probe.bufferSampleCount ≠ 0)
    (size : probe.samples.length = probe.bufferSampleCount.toNat) (room : probe.numSamples < probe.bufferSampleCount)
    (byteCount time : UInt64) : Stores probe byteCount time (probe.addSample byteCount time) := by
  obtain ⟨free, isFree⟩ := getElem?_indexOf some_ size probe.numSamples
  rw [addSample_eq isFree]
  by_cases late : time < free.time
  · have fails : assert (time ≥ free.time) = .error .assertion := by simpa [assert] using late
    rw [fails]
    exact .late (List.mem_of_getElem? isFree) late
  · have more : (probe.numSamples + 1).toNat = probe.numSamples.toNat + 1 := by
      have small := UInt32.lt_iff_toNat_lt.mp room
      have bound := probe.bufferSampleCount.toNat_lt
      rw [UInt32.toNat_add]
      exact Nat.mod_eq_of_lt (by simp; omega)
    rw [assert_of (UInt64.not_lt.mp late)]
    refine .stored ?_ ?_ ?_ fun sample is => times_set is
    · simp
    · rw [UInt32.le_iff_toNat_le, more]
      exact UInt32.lt_iff_toNat_lt.mp room
    · intro zero
      rw [zero] at more
      exact absurd more (by simp)

/-- Trimming leaves the samples where they are. -/
theorem Stores.untrimmed {oldest : UInt16} {num : UInt32} {byteCount time : UInt64} {result : Access DataProbe}
    (stores : Stores (probe.withSamples probe.samples oldest num) byteCount time result) :
    Stores probe byteCount time result := by
  cases stores with
  | late is late => exact .late is late
  | stored size fits some_ times => exact .stored size fits some_ times

theorem stores_storeSample (sized : Sized probe) (window : probe.windowSizeMs ≠ 0) (byteCount time : UInt64) :
    Stores probe byteCount time (probe.storeSample byteCount time) := by
  have some_ := sized.some_ window
  obtain ⟨oldest, num, trims, small⟩ := trimWindow_ok sized window time
  have fits := UInt32.le_trans small sized.fits
  unfold storeSample
  rw [assert_of (sized.room window), ok_bind, trims, ok_bind]
  refine @Stores.untrimmed probe oldest num _ _ _ ?_
  split
  case isTrue full =>
    have notNone : num ≠ 0 := fun zero => some_ (full.symm.trans zero)
    exact @stores_replaceSample (probe.withSamples probe.samples oldest num) some_ sized.size fits notNone _ _
  case isFalse notFull =>
    have room := UInt32.lt_of_le_of_ne fits notFull
    exact @stores_addSample (probe.withSamples probe.samples oldest num) some_ sized.size room _ _

end Samples

/-! ## Reports -/

section Reports

variable {probe probe' : DataProbe} {now time : UInt64}

theorem calculateTotalThroughput_report (calculates : probe.calculateTotalThroughput now = .ok probe') :
    ∃ report, probe' = probe.withReport report := by
  unfold calculateTotalThroughput at calculates
  dsimp only at calculates
  split at calculates
  · cases calculates
    exact ⟨_, rfl⟩
  · obtain ⟨_, _, calculates⟩ := bind_ok calculates
    cases calculates
    exact ⟨_, rfl⟩

theorem calculateWindowThroughput_report (calculates : probe.calculateWindowThroughput now = .ok probe') :
    ∃ report, probe' = probe.withReport report := by
  unfold calculateWindowThroughput at calculates
  iterate 5 obtain ⟨_, _, calculates⟩ := bind_ok calculates
  cases calculates
  exact ⟨_, rfl⟩

theorem calculateWindowIntegral_report (calculates : probe.calculateWindowIntegral now = .ok probe') :
    ∃ report, probe' = probe.withReport report := by
  unfold calculateWindowIntegral at calculates
  iterate 4 obtain ⟨_, _, calculates⟩ := bind_ok calculates
  cases calculates
  exact ⟨_, rfl⟩

theorem whenAsked_report {option : UInt32} {calculate : DataProbe → Access DataProbe}
    (only : calculate probe = .ok probe' → ∃ report, probe' = probe.withReport report)
    (calculates : probe.whenAsked option calculate = .ok probe') : ∃ report, probe' = probe.withReport report := by
  unfold whenAsked at calculates
  split at calculates
  · exact only calculates
  · cases calculates
    exact ⟨_, rfl⟩

theorem getReportWithTime_report (gets : probe.getReportWithTime now = .ok probe') :
    ∃ report, probe' = probe.withReport report := by
  unfold getReportWithTime at gets
  obtain ⟨first, isFirst, gets⟩ := bind_ok gets
  obtain ⟨second, isSecond, gets⟩ := bind_ok gets
  obtain ⟨third, isThird, gets⟩ := bind_ok gets
  obtain ⟨_, rfl⟩ := whenAsked_report calculateTotalThroughput_report isFirst
  obtain ⟨_, rfl⟩ := whenAsked_report calculateWindowThroughput_report isSecond
  obtain ⟨_, rfl⟩ := whenAsked_report calculateWindowIntegral_report isThird
  cases gets
  exact ⟨_, rfl⟩

end Reports

/-! ## Resets -/

/-- What all steps keep of a probe that was created: the reset goes back to it, up to the samples, and they
    have not changed while there are none. -/
structure Reached (fresh probe : DataProbe) : Prop where
  sized : Sized probe
  resets : ∀ time, probe.resetWithTime time = (fresh.resetWithTime time).withSamples probe.samples 0 probe.numSamples
  untouched : probe.numSamples = 0 → probe.samples = fresh.samples

section Resets

variable {fresh probe probe' : DataProbe}

/-- What `create` gives. -/
theorem create_ok {options bufferSampleCount windowSizeMs reportIntervalMs : UInt32} {hasListener : Bool}
    {time : UInt64}
    (creates : create options bufferSampleCount windowSizeMs reportIntervalMs hasListener time = .ok probe) :
    (windowSizeMs ≠ 0 → 1 < bufferSampleCount) ∧
      probe = ⟨options, bufferSampleCount, windowSizeMs, reportIntervalMs,
        List.replicate bufferSampleCount.toNat ⟨0, some 0⟩, 0, 0, 0, ⟨0, 0, 0, 0, 0, 0, 0, time⟩, time, hasListener⟩ := by
  unfold create at creates
  by_cases window : windowSizeMs > 0
  · rw [if_pos window] at creates
    obtain ⟨_, room, creates⟩ := bind_ok creates
    cases creates
    refine ⟨fun _ => ?_, rfl⟩
    by_contra small
    simp [assert, small] at room
  · rw [if_neg window] at creates
    cases creates
    refine ⟨fun some_ => ?_, rfl⟩
    exact absurd (UInt32.pos_iff_ne_zero.mpr some_) window

theorem reached_create {options bufferSampleCount windowSizeMs reportIntervalMs : UInt32} {hasListener : Bool}
    {time : UInt64}
    (creates : create options bufferSampleCount windowSizeMs reportIntervalMs hasListener time = .ok fresh) :
    Reached fresh fresh := by
  obtain ⟨room, rfl⟩ := create_ok creates
  refine ⟨⟨List.length_replicate, room, UInt32.zero_le⟩, fun _ => rfl, fun _ => rfl⟩

theorem Reached.accumulate {byteCount time : UInt64} {notified : Bool} (reached : Reached fresh probe)
    (accumulates : probe.accumulateWithTime byteCount time = .ok (probe', notified)) : Reached fresh probe' := by
  unfold accumulateWithTime at accumulates
  obtain ⟨_, _, accumulates⟩ := bind_ok accumulates
  obtain ⟨_, _, accumulates⟩ := bind_ok accumulates
  obtain ⟨_, _, accumulates⟩ := bind_ok accumulates
  obtain ⟨probe'', stores, accumulates⟩ := bind_ok accumulates
  cases accumulates
  split at stores
  case isTrue window =>
    have result := stores_storeSample (reached.sized.countBytes byteCount) window byteCount time
    rw [stores] at result
    cases result with
    | stored size fits some_ times =>
        refine ⟨⟨size.trans reached.sized.size, reached.sized.room, fits⟩, ?_, fun zero => absurd zero some_⟩
        intro time
        exact congrArg (withSamples · _ 0 _) (reached.resets time)
  case isFalse =>
    cases stores
    exact ⟨reached.sized.countBytes byteCount, reached.resets, reached.untouched⟩

theorem Reached.step {first : Step} (reached : Reached fresh probe) (steps : probe.step first = .ok probe') :
    Reached fresh probe' := by
  cases first with
  | sample byteCount time =>
      obtain ⟨⟨_, notified⟩, accumulates, rest⟩ := bind_ok steps
      cases rest
      exact reached.accumulate accumulates
  | reset time =>
      cases steps
      exact ⟨reached.sized.reset time, reached.resets, reached.untouched⟩
  | report time =>
      obtain ⟨report, rfl⟩ := getReportWithTime_report steps
      exact ⟨reached.sized.withReport report, reached.resets, reached.untouched⟩

theorem Reached.run {steps : List Step} (reached : Reached fresh probe) (runs : probe.run steps = .ok probe') :
    Reached fresh probe' := by
  induction steps generalizing probe with
  | nil =>
      cases runs
      exact reached
  | cons first steps ih =>
      obtain ⟨between, goes, runs⟩ := bind_ok runs
      exact ih (reached.step goes) runs

/-- The reports of a probe are not about its samples. -/
structure Windowless (probe : DataProbe) : Prop where
  throughput : probe.options &&& optionWindowThroughput = 0
  integral : probe.options &&& optionWindowIntegral = 0

/-- The samples come in the order of their times. -/
def InOrder : UInt64 → List Step → Prop
  | _, [] => True
  | latest, .sample _ time :: steps => latest ≤ time ∧ InOrder time steps
  | latest, .reset _ :: steps => InOrder latest steps
  | latest, .report _ :: steps => InOrder latest steps

/-- Two probes that differ in their samples only, and their reports are not about them. -/
structure Alike (latest : UInt64) (probe probe' : DataProbe) : Prop where
  same : ∃ samples oldest num, probe' = probe.withSamples samples oldest num
  sized : Sized probe
  sized' : Sized probe'
  past : ∀ sample ∈ probe.samples, sample.time ≤ latest
  past' : ∀ sample ∈ probe'.samples, sample.time ≤ latest
  windowless : Windowless probe

theorem times_stored {samples samples' : List DataProbeSample} {latest time : UInt64}
    (past : ∀ sample ∈ samples, sample.time ≤ latest) (inOrder : latest ≤ time)
    (times : ∀ sample ∈ samples', sample.time = time ∨ ∃ old ∈ samples, sample.time = old.time) :
    ∀ sample ∈ samples', sample.time ≤ time := by
  intro sample is
  cases times sample is with
  | inl new => exact UInt64.le_of_eq new
  | inr old =>
      obtain ⟨old, isOld, same⟩ := old
      rw [same]
      exact UInt64.le_trans (past old isOld) inOrder

/-- A sample that is not late is stored. -/
theorem Stores.ok {byteCount latest time : UInt64} {result : Access DataProbe}
    (stores : Stores probe byteCount time result) (past : ∀ sample ∈ probe.samples, sample.time ≤ latest) (inOrder : latest ≤ time) :
    ∃ samples oldest num, result = .ok (probe.withSamples samples oldest num) ∧
      samples.length = probe.samples.length ∧ num ≤ probe.bufferSampleCount ∧
      ∀ sample ∈ samples, sample.time ≤ time := by
  cases stores with
  | late is late => exact absurd (UInt64.le_trans (past _ is) inOrder) (UInt64.not_le.mpr late)
  | stored size fits some_ times => exact ⟨_, _, _, rfl, size, fits, times_stored past inOrder times⟩

variable {latest : UInt64}

theorem Alike.storeSample {byteCount time : UInt64} (alike : Alike latest probe probe') (inOrder : latest ≤ time)
    (window : probe.windowSizeMs ≠ 0) :
    Along (Alike time) (probe.storeSample byteCount time) (probe'.storeSample byteCount time) := by
  obtain ⟨⟨_, _, _, rfl⟩, sized, sized', past, past', windowless⟩ := alike
  have stores := stores_storeSample sized window byteCount time
  have stores' := stores_storeSample sized' window byteCount time
  obtain ⟨samples, oldest, num, is, size, fits, times⟩ := stores.ok past inOrder
  obtain ⟨samples', oldest', num', is', size', fits', times'⟩ := stores'.ok past' inOrder
  rw [is, is']
  exact .ok ⟨⟨samples', oldest', num', rfl⟩, ⟨size.trans sized.size, sized.room, fits⟩,
    ⟨size'.trans sized'.size, sized.room, fits'⟩, times, times', windowless.throughput, windowless.integral⟩

theorem Alike.later {time : UInt64} (alike : Alike latest probe probe') (inOrder : latest ≤ time) :
    Alike time probe probe' :=
  ⟨alike.same, alike.sized, alike.sized', fun sample is => UInt64.le_trans (alike.past sample is) inOrder,
    fun sample is => UInt64.le_trans (alike.past' sample is) inOrder, alike.windowless⟩

theorem Alike.countBytes (alike : Alike latest probe probe') (byteCount : UInt64) :
    Alike latest (probe.countBytes byteCount) (probe'.countBytes byteCount) := by
  obtain ⟨⟨samples, oldest, num, rfl⟩, sized, sized', past, past', windowless⟩ := alike
  exact ⟨⟨samples, oldest, num, rfl⟩, sized.countBytes _, sized'.countBytes _, past, past', windowless.throughput,
    windowless.integral⟩

theorem Alike.accumulate {byteCount time : UInt64} (alike : Alike latest probe probe') (inOrder : latest ≤ time) :
    Along (Alike time) (probe.step (.sample byteCount time)) (probe'.step (.sample byteCount time)) := by
  have counted := alike.countBytes byteCount
  obtain ⟨⟨samples, oldest, num, rfl⟩, -, -, -, -, -⟩ := alike
  unfold DataProbe.step accumulateWithTime
  dsimp only
  simp only [bind_assoc]
  refine .after _ fun _ => .after _ fun _ => .after _ fun _ => ?_
  refine @Along.bind _ _ _ _ _ (Alike time) _ _ _ _ _ ?_ fun _ _ are => .ok are
  refine @Along.ite _ _ _ _ (probe.windowSizeMs ≠ 0) _ _ _ _ _ (fun window => ?_) fun _ => ?_
  · exact counted.storeSample inOrder window
  · exact .ok (counted.later inOrder)

theorem Alike.report (alike : Alike latest probe probe') : probe.report = probe'.report := by
  obtain ⟨⟨samples, oldest, num, rfl⟩, -, -, -, -, -⟩ := alike
  rfl

theorem Alike.withReport (alike : Alike latest probe probe') (report : DataProbeReport) :
    Alike latest (probe.withReport report) (probe'.withReport report) := by
  obtain ⟨⟨samples, oldest, num, rfl⟩, sized, sized', past, past', windowless⟩ := alike
  exact ⟨⟨samples, oldest, num, rfl⟩, sized.withReport _, sized'.withReport _, past, past', windowless.throughput,
    windowless.integral⟩

theorem Alike.calculateTotalThroughput {now : UInt64} (alike : Alike latest probe probe') :
    Along (Alike latest) (probe.calculateTotalThroughput now) (probe'.calculateTotalThroughput now) := by
  have reports := alike.withReport
  obtain ⟨⟨samples, oldest, num, rfl⟩, -, -, -, -, -⟩ := alike
  unfold DataProbe.calculateTotalThroughput
  dsimp only
  refine @Along.ite _ _ _ _ (now - probe.lastResetTime = 0) _ _ _ _ _ (fun _ => ?_) fun _ => ?_
  · exact .ok (reports probe.report)
  · exact .after _ fun _ => .ok (reports _)

theorem whenAsked_not {option : UInt32} {calculate : DataProbe → Access DataProbe}
    (isNot : probe.options &&& option = 0) : probe.whenAsked option calculate = .ok probe :=
  if_neg (not_not.mpr isNot)

theorem Alike.getReportWithTime {time : UInt64} (alike : Alike latest probe probe') :
    Along (Alike latest) (probe.getReportWithTime time) (probe'.getReportWithTime time) := by
  unfold DataProbe.getReportWithTime
  refine @Along.bind _ _ _ _ _ (Alike latest) _ _ _ _ _ ?_ fun first first' are => ?_
  · have total := @Alike.calculateTotalThroughput _ _ _ time alike
    obtain ⟨⟨samples, oldest, num, rfl⟩, -, -, -, -, -⟩ := id alike
    exact @Along.ite _ _ _ _ (probe.options &&& optionTotalThroughput ≠ 0) _ _ _ _ _ (fun _ => total) fun _ => .ok alike
  · have reports := are.withReport
    obtain ⟨⟨samples, oldest, num, rfl⟩, -, -, -, -, windowless⟩ := are
    have windowless' : Windowless (first.withSamples samples oldest num) := ⟨windowless.throughput, windowless.integral⟩
    rw [whenAsked_not windowless.throughput, ok_bind, whenAsked_not windowless.integral, ok_bind,
      whenAsked_not windowless'.throughput, ok_bind, whenAsked_not windowless'.integral, ok_bind]
    exact .ok (reports _)

theorem Alike.reset (alike : Alike latest probe probe') (time : UInt64) :
    Alike latest (probe.resetWithTime time) (probe'.resetWithTime time) := by
  obtain ⟨⟨samples, oldest, num, rfl⟩, sized, sized', past, past', windowless⟩ := alike
  exact ⟨⟨samples, 0, num, rfl⟩, sized.reset _, sized'.reset _, past, past', windowless.throughput, windowless.integral⟩

theorem Alike.run {steps : List Step} (alike : Alike latest probe probe') (inOrder : InOrder latest steps) :
    Along (fun first second => ∃ latest, Alike latest first second) (probe.run steps) (probe'.run steps) := by
  induction steps generalizing latest probe probe' with
  | nil => exact .ok ⟨latest, alike⟩
  | cons first steps ih =>
      cases first with
      | sample byteCount time =>
          obtain ⟨notLate, inOrder⟩ := inOrder
          exact (alike.accumulate notLate).bind fun _ _ are => ih are inOrder
      | reset time => exact ih (alike.reset time) inOrder
      | report time => exact (Along.bind alike.getReportWithTime) fun _ _ are => ih are inOrder

theorem Alike.reportAfter {steps : List Step} {now : UInt64} (alike : Alike latest probe probe')
    (inOrder : InOrder latest steps) : probe.reportAfter steps now = probe'.reportAfter steps now := by
  refine Along.eq ((alike.run inOrder).bind fun _ _ are => ?_)
  obtain ⟨latest, alike⟩ := are
  exact alike.getReportWithTime.bind fun _ _ are => .ok are.report

/-- What a reset can forget: there are no samples, or no report is about them and the next ones do not come
    before them. -/
def Forgets (probe : DataProbe) (time : UInt64) (steps : List Step) : Prop :=
  probe.numSamples = 0 ∨ Windowless probe ∧ (∀ sample ∈ probe.samples, sample.time ≤ time) ∧ InOrder time steps

theorem create_again {options bufferSampleCount windowSizeMs reportIntervalMs : UInt32} {hasListener : Bool}
    {time : UInt64}
    (creates : create options bufferSampleCount windowSizeMs reportIntervalMs hasListener time = .ok fresh)
    (again : UInt64) :
    create options bufferSampleCount windowSizeMs reportIntervalMs hasListener again =
      .ok (fresh.resetWithTime again) := by
  obtain ⟨room, rfl⟩ := create_ok creates
  unfold create
  by_cases window : windowSizeMs > 0
  · rw [if_pos window]
    dsimp only
    rw [assert_of (room (UInt32.pos_iff_ne_zero.mp window))]
    rfl
  · rw [if_neg window]
    rfl

/-- After a reset that can forget, the reports are those of a probe that is created then. -/
theorem reports_since_reset {options bufferSampleCount windowSizeMs reportIntervalMs : UInt32} {hasListener : Bool}
    {created time now : UInt64} {history steps : List Step}
    (creates : create options bufferSampleCount windowSizeMs reportIntervalMs hasListener created = .ok fresh)
    (runs : fresh.run history = .ok probe) (forgets : Forgets probe time steps) :
    ∃ again, create options bufferSampleCount windowSizeMs reportIntervalMs hasListener time = .ok again ∧
      (probe.resetWithTime time).reportAfter steps now = again.reportAfter steps now := by
  have reached := (reached_create creates).run runs
  have resets := reached.resets time
  refine ⟨_, create_again creates time, ?_⟩
  cases forgets with
  | inl none_ =>
      rw [resets, none_, reached.untouched none_]
      obtain ⟨_, rfl⟩ := create_ok creates
      rfl
  | inr silent =>
      obtain ⟨windowless, past, inOrder⟩ := silent
      have zero : ∀ sample ∈ fresh.samples, sample.time = 0 := by
        obtain ⟨_, rfl⟩ := create_ok creates
        intro sample is
        rw [List.eq_of_mem_replicate is]
      have same : fresh.resetWithTime time = (probe.resetWithTime time).withSamples fresh.samples 0 fresh.numSamples := by
        rw [resets]
        rfl
      have alike : Alike time (probe.resetWithTime time) (fresh.resetWithTime time) :=
        ⟨⟨_, _, _, same⟩, reached.sized.reset time, (reached_create creates).sized.reset time, past,
          fun sample is => zero sample is ▸ UInt64.zero_le, windowless.throughput, windowless.integral⟩
      exact alike.reportAfter inOrder

theorem reports_since_reset_total :
    ∃ probe again, create 1 2 1000 0 false 3000000000 = .ok again ∧
      (resetWithTime probe 3000000000).reportAfter [.sample 500 4000000000] 5000000000 =
        again.reportAfter [.sample 500 4000000000] 5000000000 := by
  have runs : run ⟨1, 2, 1000, 0, List.replicate 2 ⟨0, some 0⟩, 0, 0, 0, ⟨0, 0, 0, 0, 0, 0, 0, 2000000000⟩, 2000000000,
      false⟩ [.sample 1000 2000000000, .sample 1000 3000000000] = .ok ⟨1, 2, 1000, 0,
        [⟨2000000000, some 1000⟩, ⟨3000000000, some 1000⟩], 0, 2, 2000, ⟨0, 0, 0, 0, 0, 0, 0, 2000000000⟩, 2000000000,
        false⟩ := by decide +kernel
  have forgets : Forgets ⟨1, 2, 1000, 0, [⟨2000000000, some 1000⟩, ⟨3000000000, some 1000⟩], 0, 2, 2000,
      ⟨0, 0, 0, 0, 0, 0, 0, 2000000000⟩, 2000000000, false⟩ 3000000000 [.sample 500 4000000000] :=
    .inr ⟨⟨rfl, rfl⟩, by decide +kernel, by decide, trivial⟩
  exact ⟨_, reports_since_reset rfl runs forgets⟩

/-- The bytes of a window from before the reset are in the report. -/
theorem report_tells_of_before_reset : ¬ ∀ (options bufferSampleCount windowSizeMs reportIntervalMs : UInt32)
    (hasListener : Bool) (created time now : UInt64) (history steps : List Step) (fresh probe again : DataProbe),
    create options bufferSampleCount windowSizeMs reportIntervalMs hasListener created = .ok fresh →
    fresh.run history = .ok probe →
    create options bufferSampleCount windowSizeMs reportIntervalMs hasListener time = .ok again →
      (probe.resetWithTime time).reportAfter steps now = again.reportAfter steps now := by
  intro claim
  have same := claim 2 2 1000 0 false 2000000000 2000000000 2000000000 [.sample 1000 2000000000] [] _ _ _ rfl rfl rfl
  exact absurd same (by decide +kernel)

end Resets

end DataProbe

end GoldenGate
