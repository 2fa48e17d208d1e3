import GoldenGate.Lib.Areas
import GoldenGate.Lib.Fifo
import GoldenGate.Utils.DataProbe

/-! # The samples of a data probe

Samples come in the order of their times. They stay in that order in the array of the probe, where the oldest
ones are trimmed off, and the last two are squashed when there is no room. Squashing keeps the integral of the
window unless the sample that gets the mean began before the window, and it divides by zero when that sample has
the time of the new one.
-/

namespace GoldenGate.DataProbe

open Memory Runs Fifo Areas

/-! ## Trimming -/

/-- The samples that `trimWindow` leaves. -/
def trim (start : UInt64) : List DataProbeSample → List DataProbeSample
  | first :: second :: samples =>
      if second.time ≥ start then first :: second :: samples else trim start (second :: samples)
  | samples => samples

/-- The indices that the loop reads are not cut off at 16 bits. -/
def TrimFits (start : UInt64) (count : Nat) : Nat → List DataProbeSample → Prop
  | oldest, _ :: second :: samples =>
      (oldest + 1) % count < 2 ^ 16 ∧
        (second.time < start → TrimFits start count ((oldest + 1) % count) (second :: samples))
  | _, _ => True

/-- The samples of a probe with a window. -/
structure Window (probe : DataProbe) (live : List DataProbeSample) : Prop where
  sized : Sized probe
  window : probe.windowSizeMs ≠ 0
  holds : Holds (probe.samples.map some) probe.oldestSampleIndex.toNat live
  num : live.length = probe.numSamples.toNat

section Trimming

variable {probe : DataProbe} {live : List DataProbeSample} {start : UInt64}

theorem trim_suffix (start : UInt64) (live : List DataProbeSample) : trim start live <:+ live := by
  induction live with
  | nil => exact List.suffix_refl _
  | cons first samples ih =>
      cases samples with
      | nil => exact List.suffix_refl _
      | cons second samples =>
          unfold trim
          split
          · exact List.suffix_refl _
          · exact ih.trans (List.suffix_cons _ _)

/-- All samples that are left, but for the first one, are in the window. -/
theorem trim_inside {first : DataProbeSample} {samples : List DataProbeSample} (is : trim start live = first :: samples)
    (inOrder : live.Pairwise (·.time ≤ ·.time)) : ∀ sample ∈ samples, start ≤ sample.time := by
  induction live with
  | nil => cases is
  | cons first' live ih =>
      cases live with
      | nil =>
          cases is
          exact fun _ isIn => absurd isIn List.not_mem_nil
      | cons second live =>
          unfold trim at is
          split at is
          case isTrue inside =>
            cases is
            intro sample isIn
            have order := (List.pairwise_cons.mp inOrder).2
            cases isIn with
            | head => exact inside
            | tail _ isIn => exact UInt64.le_trans inside ((List.pairwise_cons.mp order).1 sample isIn)
          case isFalse => exact ih is (List.pairwise_cons.mp inOrder).2

theorem safeIndex_toNat {index increment : UInt32} (fits : index.toNat + increment.toNat < 2 ^ 32) :
    (probe.safeIndex index increment).toNat = (index.toNat + increment.toNat) % probe.bufferSampleCount.toNat := by
  unfold safeIndex
  rw [UInt32.toNat_mod, UInt32.toNat_add, Nat.mod_eq_of_lt fits]

theorem sample_first {first : DataProbeSample} {index : UInt32}
    (holds : Holds (probe.samples.map some) index.toNat (first :: live)) : probe.sample index = .ok first := by
  have place := holds.first
  rw [List.getElem?_map] at place
  unfold sample
  cases is : probe.samples[index.toNat]? with
  | none =>
      rw [is] at place
      cases place
  | some sample =>
      rw [is] at place
      cases place
      rfl

/-- The loops go over the live samples. -/
theorem samplesFrom_live (size : probe.samples.length = probe.bufferSampleCount.toNat) {index : UInt32}
    (holds : Holds (probe.samples.map some) index.toNat live) : probe.samplesFrom live.length index = .ok live := by
  induction live generalizing index with
  | nil => rfl
  | cons first live ih =>
      have inside := holds.inside
      have bound := probe.bufferSampleCount.toNat_lt
      rw [List.length_map, size] at inside
      have next : (probe.safeIndex index 1).toNat = (index.toNat + 1) % probe.bufferSampleCount.toNat :=
        safeIndex_toNat (by simp; omega)
      have others := holds.pop
      rw [List.length_map, size, ← next] at others
      rw [List.length_cons, samplesFrom, sample_first holds, ok_bind, ih others]
      rfl

theorem Window.liveSamples (window : Window probe live) : probe.liveSamples = .ok live := by
  have holds := window.holds
  unfold DataProbe.liveSamples
  rw [← window.num]
  exact samplesFrom_live window.sized.size holds

/-- What a trimmed probe is like: the cursor has moved on to the samples that are left. -/
structure Trimmed (probe : DataProbe) (live left : List DataProbeSample) (oldest : UInt16) (num : UInt32) : Prop where
  holds : Holds (probe.samples.map some) oldest.toNat left
  num : left.length = num.toNat
  place : oldest.toNat = (probe.oldestSampleIndex.toNat + (live.length - left.length)) % probe.bufferSampleCount.toNat

theorem trimmed_self (size : probe.samples.length = probe.bufferSampleCount.toNat)
    (holds : Holds (probe.samples.map some) probe.oldestSampleIndex.toNat live)
    (num : live.length = probe.numSamples.toNat) :
    Trimmed probe live live probe.oldestSampleIndex probe.numSamples := by
  have inside := holds.inside
  rw [List.length_map, size] at inside
  refine ⟨holds, num, ?_⟩
  rw [Nat.sub_self, Nat.add_zero, Nat.mod_eq_of_lt inside]

/-- The last sample stays. -/
theorem trimLoop_few (few : probe.numSamples.toNat ≤ 1) (start : UInt64) (fuel : Nat) :
    trimLoop start (fuel + 1) probe = .ok probe := by
  have notMore : ¬probe.numSamples > 1 := by
    intro more
    exact absurd (UInt32.lt_iff_toNat_lt.mp more) (Nat.not_lt.mpr few)
  exact if_neg notMore

/-- The loop leaves what is to be left. -/
theorem trimLoop_live (size : probe.samples.length = probe.bufferSampleCount.toNat)
    (holds : Holds (probe.samples.map some) probe.oldestSampleIndex.toNat live)
    (num : live.length = probe.numSamples.toNat)
    (fits : TrimFits start probe.bufferSampleCount.toNat probe.oldestSampleIndex.toNat live) {fuel : Nat}
    (enough : live.length < fuel) :
    ∃ oldest num, trimLoop start fuel probe = .ok (probe.withSamples probe.samples oldest num) ∧
      Trimmed probe live (trim start live) oldest num := by
  induction live generalizing probe fuel with
  | nil =>
      obtain ⟨fuel, rfl⟩ := Nat.exists_eq_succ_of_ne_zero (Nat.ne_zero_of_lt enough)
      exact ⟨_, _, trimLoop_few (num ▸ Nat.zero_le 1) _ _, trimmed_self size holds num⟩
  | cons first live ih =>
      obtain ⟨fuel, rfl⟩ := Nat.exists_eq_succ_of_ne_zero (Nat.ne_zero_of_lt enough)
      cases live with
      | nil => exact ⟨_, _, trimLoop_few (num ▸ Nat.le_refl 1) _ _, trimmed_self size holds num⟩
      | cons second live =>
          obtain ⟨fit, fits⟩ := fits
          have more : probe.numSamples > 1 := by
            rw [gt_iff_lt, UInt32.lt_iff_toNat_lt, ← num]
            simp
          have bound := probe.bufferSampleCount.toNat_lt
          have inside := holds.inside
          rw [List.length_map, size] at inside
          have index : (probe.safeIndex probe.oldestSampleIndex.toUInt32 1).toUInt16.toNat =
              (probe.oldestSampleIndex.toNat + 1) % probe.bufferSampleCount.toNat := by
            have next := @safeIndex_toNat probe probe.oldestSampleIndex.toUInt32 1 (by simp; omega)
            rw [UInt32.toNat_toUInt16, next]
            exact Nat.mod_eq_of_lt fit
          have others := holds.pop
          rw [List.length_map, size, ← index] at others
          unfold trimLoop trim
          rw [if_pos more]
          dsimp only
          rw [sample_first others, ok_bind]
          split
          case isTrue inside => exact ⟨_, _, rfl, trimmed_self size holds num⟩
          case isFalse outside =>
            have fewer : (second :: live).length = (probe.numSamples - 1).toNat := by
              rw [UInt32.toNat_sub_of_le _ _ (UInt32.le_of_lt more), ← num]
              rfl
            obtain ⟨oldest, num', trims, holds', num', place⟩ := @ih { probe with
              oldestSampleIndex := (probe.safeIndex probe.oldestSampleIndex.toUInt32 1).toUInt16
              numSamples := probe.numSamples - 1 } size others fewer
              (by rw [index]; exact fits (UInt64.not_le.mp outside)) fuel (Nat.lt_of_succ_lt_succ enough)
            refine ⟨oldest, _, trims, holds', num', ?_⟩
            have shorter := (trim_suffix start (second :: live)).length_le
            rw [place, index, Nat.mod_add_mod]
            simp only [List.length_cons] at shorter ⊢
            congr 1
            omega

/-- The cursor after trimming. -/
def trimmedOldest (start : UInt64) (count oldest : Nat) (live : List DataProbeSample) : Nat :=
  (oldest + (live.length - (trim start live).length)) % count

theorem Window.trimWindow (window : Window probe live) {now : UInt64}
    (fits : TrimFits (probe.windowStartTime now) probe.bufferSampleCount.toNat probe.oldestSampleIndex.toNat live) :
    ∃ oldest num, probe.trimWindow now = .ok (probe.withSamples probe.samples oldest num) ∧
      Window (probe.withSamples probe.samples oldest num) (trim (probe.windowStartTime now) live) ∧
      oldest.toNat = trimmedOldest (probe.windowStartTime now) probe.bufferSampleCount.toNat
        probe.oldestSampleIndex.toNat live := by
  obtain ⟨sized, some_, holds, num⟩ := window
  have enough : live.length < probe.numSamples.toNat + 1 := num ▸ Nat.lt_succ_self _
  obtain ⟨oldest, num', trims, holds', isNum, place⟩ := trimLoop_live sized.size holds num fits enough
  refine ⟨oldest, num', ?_, ⟨⟨sized.size, sized.room, ?_⟩, some_, holds', isNum⟩, place⟩
  · unfold DataProbe.trimWindow
    rw [assert_of some_, ok_bind, assert_of (sized.some_ some_), ok_bind]
    exact trims
  · have fitting := holds'.fits
    rw [List.length_map, sized.size, isNum] at fitting
    exact UInt32.le_iff_toNat_le.mpr fitting

end Trimming

/-! ## Storing -/

section Storing

variable {probe : DataProbe} {live : List DataProbeSample}

theorem indexOf_eq {increment : UInt32} (fits : probe.oldestSampleIndex.toNat + increment.toNat < 2 ^ 32) :
    probe.indexOf increment = (probe.oldestSampleIndex.toNat + increment.toNat) % probe.bufferSampleCount.toNat := by
  unfold indexOf
  rw [safeIndex_toNat (by simpa using fits), UInt16.toNat_toUInt32]

/-- Where a sample is. -/
theorem Window.place (window : Window probe live) {i : Nat} {sample : DataProbeSample} (is : live[i]? = some sample) :
    probe.samples[(probe.oldestSampleIndex.toNat + i) % probe.bufferSampleCount.toNat]? = some sample := by
  obtain ⟨small, is⟩ := List.getElem?_eq_some_iff.mp is
  have place := window.holds.place i small
  rw [List.length_map, window.sized.size, List.getElem?_map, is] at place
  obtain ⟨sample', isIn, same⟩ := Option.map_eq_some_iff.mp place
  cases same
  exact isIn

/-- There is room for a sample behind the others. -/
theorem Window.addSample (window : Window probe live) (room : live.length < probe.bufferSampleCount.toNat)
    (fits : probe.oldestSampleIndex.toNat + live.length < 2 ^ 32) {latest time : UInt64}
    (past : ∀ sample ∈ probe.samples, sample.time ≤ latest) (inOrder : latest ≤ time) (byteCount : UInt64) :
    ∃ samples num, probe.addSample byteCount time = .ok (probe.withSamples samples probe.oldestSampleIndex num) ∧
      Window (probe.withSamples samples probe.oldestSampleIndex num) (live ++ [⟨time, .ofUInt64 byteCount⟩]) := by
  obtain ⟨sized, some_, holds, num⟩ := window
  obtain ⟨free, isFree⟩ := getElem?_indexOf (sized.some_ some_) sized.size probe.numSamples
  have notLate : free.time ≤ time := UInt64.le_trans (past free (List.mem_of_getElem? isFree)) inOrder
  have more : (probe.numSamples + 1).toNat = live.length + 1 := by
    have bound := probe.bufferSampleCount.toNat_lt
    rw [UInt32.toNat_add, ← num]
    exact Nat.mod_eq_of_lt (by simp; omega)
  have pushed := holds.push (by rwa [List.length_map, sized.size]) ⟨time, .ofUInt64 byteCount⟩
  rw [List.length_map, sized.size, num, ← indexOf_eq (num ▸ fits), ← List.map_set] at pushed
  refine ⟨probe.samples.set (probe.indexOf probe.numSamples) ⟨time, .ofUInt64 byteCount⟩, probe.numSamples + 1, ?_,
    ⟨⟨?_, sized.room, ?_⟩, some_, pushed, ?_⟩⟩
  · rw [addSample_eq isFree, assert_of notLate, ok_bind]
  · exact (List.length_set ..).trans sized.size
  · exact UInt32.le_iff_toNat_le.mpr (more ▸ room)
  · rw [List.length_append, List.length_singleton]
    exact more.symm

/-- The last sample of a full array is replaced, and the one before it squashed. -/
theorem Window.replaceSample {before : List DataProbeSample} {previous target : DataProbeSample}
    (window : Window probe (before ++ [previous, target]))
    (fits : probe.oldestSampleIndex.toNat + (before.length + 1) < 2 ^ 32) {latest time : UInt64}
    (past : ∀ sample ∈ probe.samples, sample.time ≤ latest) (inOrder : latest ≤ time) (byteCount : UInt64) :
    ∃ samples, probe.replaceSample byteCount time =
        .ok (probe.withSamples samples probe.oldestSampleIndex probe.numSamples) ∧
      Window (probe.withSamples samples probe.oldestSampleIndex probe.numSamples)
        (before ++ [{ previous with byteCount := squashedByteCount previous target time },
          ⟨time, .ofUInt64 byteCount⟩]) := by
  have isNum : probe.numSamples.toNat = before.length + 2 := by
    rw [← window.num]
    simp
  have last : (probe.numSamples - 1).toNat = before.length + 1 := by
    rw [UInt32.toNat_sub_of_le _ _ (UInt32.le_iff_toNat_le.mpr (by simp [isNum])), isNum]
    rfl
  have beforeLast : (probe.numSamples - 2).toNat = before.length := by
    rw [UInt32.toNat_sub_of_le _ _ (UInt32.le_iff_toNat_le.mpr (by simp [isNum])), isNum]
    rfl
  have isTarget : probe.indexOf (probe.numSamples - 1) =
      (probe.oldestSampleIndex.toNat + (before.length + 1)) % probe.bufferSampleCount.toNat := by
    rw [indexOf_eq (last ▸ fits), last]
  have isPrevious : probe.indexOf (probe.numSamples - 2) =
      (probe.oldestSampleIndex.toNat + before.length) % probe.bufferSampleCount.toNat := by
    rw [indexOf_eq (by rw [beforeLast]; omega), beforeLast]
  have atTarget : probe.samples[probe.indexOf (probe.numSamples - 1)]? = some target := by
    rw [isTarget]
    exact window.place (by simp)
  have atPrevious : probe.samples[probe.indexOf (probe.numSamples - 2)]? = some previous := by
    rw [isPrevious]
    exact window.place (by simp)
  have notLate : target.time ≤ time := UInt64.le_trans (past target (List.mem_of_getElem? atTarget)) inOrder
  obtain ⟨sized, some_, holds, num⟩ := window
  have squashed := @Holds.set _ _ _ _ holds before.length (by simp) { previous with
    byteCount := squashedByteCount previous target time }
  have set := @Holds.set _ _ _ _ squashed (before.length + 1) (by simp) ⟨time, .ofUInt64 byteCount⟩
  simp only [List.length_map, List.length_set, sized.size, ← isPrevious, ← isTarget, ← List.map_set] at set
  have items : ((before ++ [previous, target]).set before.length { previous with
      byteCount := squashedByteCount previous target time }).set (before.length + 1) ⟨time, .ofUInt64 byteCount⟩ =
      before ++ [{ previous with byteCount := squashedByteCount previous target time }, ⟨time, .ofUInt64 byteCount⟩] := by
    simp
  rw [items] at set
  refine ⟨replaced probe.samples (probe.indexOf (probe.numSamples - 1)) (probe.indexOf (probe.numSamples - 2)) target
    previous byteCount time, ?_, ⟨⟨?_, sized.room, sized.fits⟩, some_, set, ?_⟩⟩
  · rw [replaceSample_eq atTarget atPrevious, assert_of notLate, ok_bind]
  · exact (List.length_set ..).trans ((List.length_set ..).trans sized.size)
  · exact num ▸ by simp

/-- The samples after a new one: it is added, or replaces the last one. -/
inductive Stored (start byteCount time : UInt64) (count : Nat) (live : List DataProbeSample) :
    List DataProbeSample → Prop where
  | added (room : (trim start live).length < count) :
      Stored start byteCount time count live (trim start live ++ [⟨time, .ofUInt64 byteCount⟩])
  | replaced {before : List DataProbeSample} {previous target : DataProbeSample}
      (are : trim start live = before ++ [previous, target]) (full : before.length + 2 = count) :
      Stored start byteCount time count live
        (before ++ [{ previous with byteCount := squashedByteCount previous target time }, ⟨time, .ofUInt64 byteCount⟩])

theorem exists_last_two {samples : List DataProbeSample} (some_ : 1 < samples.length) :
    ∃ before previous target, samples = before ++ [previous, target] := by
  cases samples.eq_nil_or_concat with
  | inl none_ => simp [none_] at some_
  | inr last =>
      obtain ⟨samples, target, rfl⟩ := last
      cases samples.eq_nil_or_concat with
      | inl none_ => simp [none_] at some_
      | inr last =>
          obtain ⟨before, previous, rfl⟩ := last
          exact ⟨before, previous, target, by simp⟩

theorem Window.storeSample (window : Window probe live) {latest byteCount time : UInt64}
    (past : ∀ sample ∈ probe.samples, sample.time ≤ latest) (inOrder : latest ≤ time)
    (trims : TrimFits (probe.windowStartTime time) probe.bufferSampleCount.toNat probe.oldestSampleIndex.toNat live)
    (target : trimmedOldest (probe.windowStartTime time) probe.bufferSampleCount.toNat probe.oldestSampleIndex.toNat
      live + min (trim (probe.windowStartTime time) live).length (probe.bufferSampleCount.toNat - 1) < 2 ^ 32) :
    ∃ probe' live', probe.storeSample byteCount time = .ok probe' ∧ Window probe' live' ∧
      Stored (probe.windowStartTime time) byteCount time probe.bufferSampleCount.toNat live live' := by
  have room := window.sized.room window.window
  obtain ⟨oldest, num, isTrimmed, left, place⟩ := window.trimWindow trims
  have fits := left.holds.fits
  rw [List.length_map, left.sized.size] at fits
  rw [← place] at target
  unfold DataProbe.storeSample
  rw [assert_of room, ok_bind, isTrimmed, ok_bind]
  split
  case isTrue full =>
    have isFull : (trim (probe.windowStartTime time) live).length = probe.bufferSampleCount.toNat := by
      rw [left.num]
      exact congrArg UInt32.toNat full
    obtain ⟨before, previous, last, are⟩ := exists_last_two (isFull ▸ UInt32.lt_iff_toNat_lt.mp room)
    have size : before.length + 2 = probe.bufferSampleCount.toNat := by
      rw [← isFull, are]
      simp
    rw [are] at left
    rw [isFull] at target
    obtain ⟨samples, replaces, kept⟩ := left.replaceSample (show oldest.toNat + (before.length + 1) < 2 ^ 32 by omega)
      past inOrder byteCount
    exact ⟨_, _, replaces, kept, .replaced are size⟩
  case isFalse notFull =>
    have isRoom : (trim (probe.windowStartTime time) live).length < probe.bufferSampleCount.toNat := by
      exact Nat.lt_of_le_of_ne fits fun same => notFull (UInt32.toNat_inj.mp (left.num.symm.trans same))
    have fit : oldest.toNat + (trim (probe.windowStartTime time) live).length < 2 ^ 32 := by
      rwa [Nat.min_eq_left (Nat.le_sub_one_of_lt isRoom)] at target
    obtain ⟨samples, num, adds, kept⟩ := left.addSample isRoom fit past inOrder byteCount
    exact ⟨_, _, adds, kept, .added isRoom⟩

end Storing

/-! ## Integrals -/

/-- A sample as a point of a step function, which is not before the start of the window. -/
def point (start : UInt64) (sample : DataProbeSample) : Point :=
  ((max start.toNat sample.time.toNat : Nat), sample.byteCount.getD 0)

/-- The integral of a window. -/
def windowArea (start now : UInt64) (live : List DataProbeSample) : ℚ :=
  area now.toNat (start.toNat, 0) (live.map (point start))

/-- The samples are numbers, from the times up to some time, in their order. -/
structure Chronicle (now : UInt64) (samples : List DataProbeSample) : Prop where
  inOrder : samples.Pairwise (·.time ≤ ·.time)
  past : ∀ sample ∈ samples, sample.time ≤ now
  numbers : ∀ sample ∈ samples, sample.byteCount ≠ none

section Integrals

variable {start now : UInt64} {live : List DataProbeSample}

theorem Chronicle.cons {sample : DataProbeSample} {samples : List DataProbeSample}
    (chronicle : Chronicle now (sample :: samples)) :
    sample.time ≤ now ∧ (∃ count, sample.byteCount = some count) ∧ (∀ later ∈ samples, sample.time ≤ later.time) ∧
      Chronicle now samples := by
  obtain ⟨inOrder, past, numbers⟩ := chronicle
  obtain ⟨first, inOrder⟩ := List.pairwise_cons.mp inOrder
  exact ⟨past _ (List.mem_cons_self ..), Option.ne_none_iff_exists'.mp (numbers _ (List.mem_cons_self ..)), first,
    inOrder, fun later is => past later (List.mem_cons_of_mem _ is),
    fun later is => numbers later (List.mem_cons_of_mem _ is)⟩

theorem ofUInt64_sub {first second : UInt64} (inOrder : second ≤ first) :
    Double.ofUInt64 (first - second) = some ((first.toNat : ℚ) - second.toNat) := by
  unfold Double.ofUInt64
  rw [UInt64.toNat_sub_of_le _ _ inOrder, Nat.cast_sub (UInt64.le_iff_toNat_le.mp inOrder)]

/-- The loop adds up the area from the last sample on. -/
theorem totalByteNanos_area {last : UInt64} {count total : ℚ} {found : Bool} {samples : List DataProbeSample}
    (chronicle : Chronicle now samples) (lastPast : last ≤ now) (lastInside : start ≤ last)
    (outside : ∀ sample ∈ samples, sample.time < start → last = start)
    (inside : ∀ sample ∈ samples, start ≤ sample.time → last ≤ sample.time) (notFound : found = false → count = 0) :
    totalByteNanos now start (some count) last (some total) found samples =
      some (total + area now.toNat (last.toNat, count) (samples.map (point start))) := by
  induction samples generalizing last count total found with
  | nil =>
      unfold totalByteNanos
      rw [ofUInt64_sub lastPast]
      rfl
  | cons sample samples ih =>
      obtain ⟨past, ⟨count', isCount⟩, later, chronicle⟩ := chronicle.cons
      unfold totalByteNanos
      rw [if_neg (UInt64.not_lt.mpr past), List.map_cons, isCount]
      unfold area
      have isPoint : point start sample = (((max start.toNat sample.time.toNat : Nat) : ℚ), count') := by
        unfold point
        rw [isCount]
        rfl
      rw [isPoint]
      split
      case isTrue before =>
        have isStart := outside sample (List.mem_cons_self ..) before
        subst isStart
        have rest := @ih _ count' total true chronicle lastPast lastInside
          (fun later is => outside later (List.mem_cons_of_mem _ is))
          (fun later is => inside later (List.mem_cons_of_mem _ is)) (by simp)
        have atStart : max last.toNat sample.time.toNat = last.toNat :=
          Nat.max_eq_left (Nat.le_of_lt (UInt64.lt_iff_toNat_lt.mp before))
        rw [rest, atStart, sub_self, zero_mul, zero_add]
      case isFalse notBefore =>
        have notBefore := UInt64.not_lt.mp notBefore
        have inOrder := inside sample (List.mem_cons_self ..) notBefore
        have atSample : max start.toNat sample.time.toNat = sample.time.toNat :=
          Nat.max_eq_right (UInt64.le_iff_toNat_le.mp notBefore)
        have rest (total : ℚ) := @ih _ count' total true chronicle past notBefore
          (fun next is before => absurd (UInt64.le_trans notBefore (later next is)) (UInt64.not_le.mpr before))
          (fun next is _ => later next is) (by simp)
        rw [atSample]
        split
        case isTrue =>
          rw [ofUInt64_sub inOrder, ← add_assoc]
          exact rest _
        case isFalse isNot =>
          rw [notFound (Bool.eq_false_iff.mpr isNot), mul_zero, zero_add]
          exact rest total

/-- The integral of the code is the area below the samples. -/
theorem Window.windowByteNanos {probe : DataProbe} (window : Window probe live) (chronicle : Chronicle now live)
    (started : probe.windowStartTime now ≤ now) :
    probe.windowByteNanos now = .ok (some (windowArea (probe.windowStartTime now) now live)) := by
  unfold DataProbe.windowByteNanos
  rw [window.liveSamples, ok_bind]
  dsimp only
  rw [totalByteNanos_area chronicle started (UInt64.le_refl _) (fun _ _ _ => rfl) (fun _ _ inside => inside)
    (fun _ => rfl), zero_add]
  rfl

/-- A sample from before the window counts from its start on. -/
theorem point_outside {sample : DataProbeSample} (outside : sample.time < start) :
    point start sample = ((start.toNat : ℚ), sample.byteCount.getD 0) := by
  unfold point
  rw [Nat.max_eq_left (Nat.le_of_lt (UInt64.lt_iff_toNat_lt.mp outside))]

theorem point_inside {sample : DataProbeSample} (inside : start ≤ sample.time) :
    point start sample = ((sample.time.toNat : ℚ), sample.byteCount.getD 0) := by
  unfold point
  rw [Nat.max_eq_right (UInt64.le_iff_toNat_le.mp inside)]

/-- Trimming keeps the integral. -/
theorem windowArea_trim (start now : UInt64) (inOrder : live.Pairwise (·.time ≤ ·.time)) :
    windowArea start now (trim start live) = windowArea start now live := by
  unfold windowArea
  induction live with
  | nil => rfl
  | cons first live ih =>
      cases live with
      | nil => rfl
      | cons second live =>
          obtain ⟨order, inOrder⟩ := List.pairwise_cons.mp inOrder
          unfold trim
          split
          case isTrue => rfl
          case isFalse outside =>
            have outside := UInt64.not_le.mp outside
            have outside' := UInt64.lt_of_le_of_lt (order second (List.mem_cons_self ..)) outside
            rw [ih inOrder]
            simp only [List.map_cons, point_outside outside, point_outside outside', area, sub_self, zero_mul, zero_add]

/-- A mean over no time is a division by zero. -/
theorem squashedByteCount_none {previous : DataProbeSample} (isNow : previous.time = now) (target : DataProbeSample) :
    squashedByteCount previous target now = none := by
  unfold squashedByteCount
  dsimp only
  rw [isNow, UInt64.sub_self]
  generalize Double.add _ _ = bytes
  cases bytes with
  | none => rfl
  | some bytes => rfl

theorem Chronicle.squashed_mean {before : List DataProbeSample} {previous target : DataProbeSample}
    (chronicle : Chronicle now (before ++ [previous, target])) (notNow : previous.time ≠ now) :
    ∃ count count', previous.byteCount = some count ∧ target.byteCount = some count' ∧
      squashedByteCount previous target now =
        some (mean now.toNat previous.time.toNat count target.time.toNat count') := by
  obtain ⟨inOrder, past, numbers⟩ := chronicle
  obtain ⟨count, isCount⟩ := Option.ne_none_iff_exists'.mp (numbers previous (by simp))
  obtain ⟨count', isCount'⟩ := Option.ne_none_iff_exists'.mp (numbers target (by simp))
  have order : previous.time ≤ target.time :=
    (List.pairwise_cons.mp (List.pairwise_append.mp inOrder).2.1).1 target (List.mem_singleton_self _)
  have notZero : ((now.toNat : ℚ) - previous.time.toNat) ≠ 0 := by
    rw [sub_ne_zero]
    intro same
    exact notNow (UInt64.toNat_inj.mp (Nat.cast_injective same).symm)
  refine ⟨count, count', isCount, isCount', ?_⟩
  unfold squashedByteCount mean
  dsimp only
  rw [ofUInt64_sub order, ofUInt64_sub (past target (by simp)), ofUInt64_sub (past previous (by simp)), isCount, isCount']
  show Double.div (some _) (some _) = _
  unfold Double.div
  dsimp only
  rw [if_neg notZero]
  congr 2
  ring

/-- Squashing keeps the integral if the sample that is squashed was in the window, and if not, only where the mean
    is that sample's own. -/
theorem windowArea_replaced {before : List DataProbeSample} {previous target : DataProbeSample} {byteCount : UInt64}
    (chronicle : Chronicle now (before ++ [previous, target])) (notNow : previous.time ≠ now)
    (inside : start ≤ target.time) :
    windowArea start now (before ++ [{ previous with byteCount := squashedByteCount previous target now },
        ⟨now, .ofUInt64 byteCount⟩]) = windowArea start now (before ++ [previous, target]) ↔
      start ≤ previous.time ∨ target.time = now ∨ previous.byteCount = target.byteCount := by
  obtain ⟨count, count', isCount, isCount', squashed⟩ := chronicle.squashed_mean notNow
  have later := chronicle.past target (by simp)
  have notNow' : (previous.time.toNat : ℚ) ≠ now.toNat :=
    fun same => notNow (UInt64.toNat_inj.mp (Nat.cast_injective same))
  have startNow := UInt64.le_trans inside later
  unfold windowArea
  simp only [List.map_append, List.map_cons, List.map_nil, area_append]
  rw [point_inside inside, @point_inside _ ⟨now, Double.ofUInt64 byteCount⟩ startNow]
  unfold point
  rw [squashed, isCount, isCount']
  simp only [Option.getD_some, sub_self, zero_mul, add_zero]
  rw [add_right_inj, mean_keeps_iff notNow', Nat.cast_inj, Nat.cast_inj, UInt64.toNat_inj, Option.some_inj, eq_comm,
    max_eq_right_iff]
  rfl

end Integrals

/-! ## Runs of samples -/

/-- A probe, with the time of the last sample, gets a sample of so many bytes at some time. -/
def accumulate (state : DataProbe × UInt64) (sample : UInt64 × UInt64) : Access (DataProbe × UInt64) := do
  let (probe, _) ← state.1.accumulateWithTime sample.1 sample.2
  .ok (probe, sample.2)

/-- There is no room for one more sample at some time. -/
def Full (probe : DataProbe) (time : UInt64) : Prop :=
  ∃ trimmed, probe.trimWindow time = .ok trimmed ∧ trimmed.numSamples = trimmed.bufferSampleCount

/-- The samples are in the order of their times, there are not too many, and nothing was divided by zero. -/
structure WellKept (probe : DataProbe) (now : UInt64) (live : List DataProbeSample) : Prop where
  are : probe.liveSamples = .ok live
  chronicle : Chronicle now live
  fits : probe.numSamples ≤ probe.bufferSampleCount

/-- A sample goes well: the samples are kept, and the integral too when the last one is replaced. -/
def Goes (state : DataProbe × UInt64) (sample : UInt64 × UInt64) : Prop :=
  ∃ state' live, accumulate state sample = .ok state' ∧ WellKept state'.1 sample.2 live ∧
    (Full state.1 sample.2 → state'.1.windowByteNanos sample.2 = state.1.windowByteNanos sample.2)

/-- The indices of the samples are neither cut off at 16 bits nor wrap around at 32 bits. -/
structure Fits (state : DataProbe × UInt64) (sample : UInt64 × UInt64) : Prop where
  trims : ∀ live, state.1.liveSamples = .ok live → TrimFits (state.1.windowStartTime sample.2)
    state.1.bufferSampleCount.toNat state.1.oldestSampleIndex.toNat live
  target : ∀ live, state.1.liveSamples = .ok live →
    trimmedOldest (state.1.windowStartTime sample.2) state.1.bufferSampleCount.toNat state.1.oldestSampleIndex.toNat
      live + min (trim (state.1.windowStartTime sample.2) live).length (state.1.bufferSampleCount.toNat - 1) < 2 ^ 32

/-- A sample comes in the order of the times, and its indices fit. -/
structure Comes (state : DataProbe × UInt64) (sample : UInt64 × UInt64) : Prop where
  inOrder : state.2 ≤ sample.2
  fits : Fits state sample

/-- The last but one of as many samples as there is room for is not from the time of the new one. It is in the window,
    unless the last sample is from that time or of the same number of bytes. -/
def Squashable (state : DataProbe × UInt64) (sample : UInt64 × UInt64) : Prop :=
  ∀ (live before : List DataProbeSample) (previous target : DataProbeSample), state.1.liveSamples = .ok live →
    trim (state.1.windowStartTime sample.2) live = before ++ [previous, target] →
    before.length + 2 = state.1.bufferSampleCount.toNat →
    previous.time ≠ sample.2 ∧ (state.1.windowStartTime sample.2 ≤ previous.time ∨ target.time = sample.2 ∨
      previous.byteCount = target.byteCount)

/-- What the samples that go well keep. -/
structure Kept (state : DataProbe × UInt64) (live : List DataProbeSample) : Prop where
  window : Window state.1 live
  chronicle : Chronicle state.2 live
  past : ∀ sample ∈ state.1.samples, sample.time ≤ state.2
  set : state.1.lastResetTime ≠ 0
  reset : state.1.lastResetTime ≤ state.2
  report : state.1.report.time ≤ state.2

section Runs

variable {state state' : DataProbe × UInt64} {sample : UInt64 × UInt64} {live : List DataProbeSample}

/-- Each sample that comes is stored, and the integrals are over the same window. -/
theorem Kept.accumulate (kept : Kept state live) (comes : Comes state sample) :
    ∃ probe' live', DataProbe.accumulate state sample = .ok (probe', sample.2) ∧ Window probe' live' ∧
      Stored (state.1.windowStartTime sample.2) sample.1 sample.2 state.1.bufferSampleCount.toNat live live' ∧
      probe'.windowSizeMs = state.1.windowSizeMs ∧ (Chronicle sample.2 live' → Kept (probe', sample.2) live') := by
  obtain ⟨probe, latest⟩ := state
  obtain ⟨byteCount, time⟩ := sample
  obtain ⟨window, chronicle, past, set, reset, report⟩ := kept
  obtain ⟨inOrder, ⟨trims, target⟩⟩ := comes
  have counted : Window (probe.countBytes byteCount) live :=
    ⟨window.sized.countBytes byteCount, window.window, window.holds, window.num⟩
  obtain ⟨probe', live', stores, kept', stored⟩ := counted.storeSample past inOrder (trims live window.liveSamples)
    (target live window.liveSamples)
  obtain ⟨samples, oldest, num, is, -, -, past'⟩ :=
    (stores_storeSample counted.sized counted.window byteCount time).ok past inOrder
  rw [stores] at is
  cases is
  refine ⟨_, live', ?_, kept', stored, rfl, fun chronicle' => ⟨kept', chronicle', past', set, ?_, ?_⟩⟩
  · unfold DataProbe.accumulate accumulateWithTime
    dsimp only
    rw [assert_of set, ok_bind, assert_of (UInt64.le_trans reset inOrder), ok_bind,
      assert_of (UInt64.le_trans report inOrder), ok_bind, if_pos counted.window, stores]
    rfl
  · exact UInt64.le_trans reset inOrder
  · exact UInt64.le_trans report inOrder

/-- Whether there is room depends on the samples that are left. -/
theorem full_iff (window : Window state.1 live) (comes : Comes state sample) :
    Full state.1 sample.2 ↔
      (trim (state.1.windowStartTime sample.2) live).length = state.1.bufferSampleCount.toNat := by
  obtain ⟨oldest, num, trims, left, -⟩ := window.trimWindow (comes.fits.trims live window.liveSamples)
  constructor
  · intro full
    obtain ⟨trimmed, is, isFull⟩ := full
    rw [trims] at is
    cases is
    exact left.num.trans (congrArg UInt32.toNat isFull)
  · intro isFull
    exact ⟨_, trims, UInt32.toNat_inj.mp (left.num.symm.trans isFull)⟩

/-- The chronicle of what is left goes on with a sample of any bytes. -/
theorem Chronicle.later {now time : UInt64} {samples : List DataProbeSample} (chronicle : Chronicle now samples)
    (inOrder : now ≤ time) (byteCount : UInt64) : Chronicle time (samples ++ [⟨time, .ofUInt64 byteCount⟩]) := by
  obtain ⟨order, past, numbers⟩ := chronicle
  refine ⟨?_, ?_, ?_⟩
  · rw [List.pairwise_append]
    refine ⟨order, List.pairwise_singleton .., fun sample is last isLast => ?_⟩
    rw [List.mem_singleton.mp isLast]
    exact UInt64.le_trans (past sample is) inOrder
  · intro sample is
    cases List.mem_append.mp is with
    | inl old => exact UInt64.le_trans (past sample old) inOrder
    | inr new => exact UInt64.le_of_eq (congrArg DataProbeSample.time (List.mem_singleton.mp new))
  · intro sample is
    cases List.mem_append.mp is with
    | inl old => exact numbers sample old
    | inr new =>
        rw [List.mem_singleton.mp new]
        exact Option.some_ne_none _

theorem Chronicle.mono {now time : UInt64} {samples : List DataProbeSample} (chronicle : Chronicle now samples)
    (inOrder : now ≤ time) : Chronicle time samples :=
  ⟨chronicle.inOrder, fun sample is => UInt64.le_trans (chronicle.past sample is) inOrder, chronicle.numbers⟩

theorem Chronicle.left {now start : UInt64} (chronicle : Chronicle now live) : Chronicle now (trim start live) := by
  have isIn := (trim_suffix start live).subset
  exact ⟨chronicle.inOrder.sublist (trim_suffix start live).sublist, fun sample is => chronicle.past sample (isIn is),
    fun sample is => chronicle.numbers sample (isIn is)⟩

theorem Chronicle.squashed {now time : UInt64} {before : List DataProbeSample} {previous target : DataProbeSample}
    {byteCount : Double} (chronicle : Chronicle now (before ++ [previous, target])) (number : byteCount ≠ none)
    (inOrder : now ≤ time) (byteCount' : UInt64) :
    Chronicle time (before ++ [{ previous with byteCount := byteCount }, ⟨time, .ofUInt64 byteCount'⟩]) := by
  obtain ⟨order, past, numbers⟩ := chronicle
  have kept : Chronicle now (before ++ [{ previous with byteCount := byteCount }]) := by
    obtain ⟨order, -, across⟩ := List.pairwise_append.mp order
    refine ⟨List.pairwise_append.mpr ⟨order, List.pairwise_singleton .., ?_⟩, ?_, ?_⟩
    · intro sample is last isLast
      rw [List.mem_singleton.mp isLast]
      exact across sample is previous (List.mem_cons_self ..)
    · intro sample is
      cases List.mem_append.mp is with
      | inl old => exact past sample (List.mem_append_left _ old)
      | inr new =>
          rw [List.mem_singleton.mp new]
          exact past previous (by simp)
    · intro sample is
      cases List.mem_append.mp is with
      | inl old => exact numbers sample (List.mem_append_left _ old)
      | inr new =>
          rw [List.mem_singleton.mp new]
          exact number
  have later := kept.later inOrder byteCount'
  rwa [List.append_assoc] at later

/-- The samples that a sample which goes well leaves. -/
theorem goes_iff_of_stored {probe' : DataProbe} {live' : List DataProbeSample} (window : Window state.1 live)
    (comes : Comes state sample) (accumulates : DataProbe.accumulate state sample = .ok (probe', sample.2))
    (window' : Window probe' live') :
    Goes state sample ↔ Chronicle sample.2 live' ∧
      ((trim (state.1.windowStartTime sample.2) live).length = state.1.bufferSampleCount.toNat →
        probe'.windowByteNanos sample.2 = state.1.windowByteNanos sample.2) := by
  constructor
  · intro goes
    obtain ⟨state', live'', is, ⟨are, chronicle, _⟩, keeps⟩ := goes
    rw [accumulates] at is
    cases is
    rw [window'.liveSamples] at are
    cases are
    exact ⟨chronicle, fun full => keeps ((full_iff window comes).mpr full)⟩
  · intro goes
    obtain ⟨chronicle, keeps⟩ := goes
    exact ⟨_, live', accumulates, ⟨window'.liveSamples, chronicle, window'.sized.fits⟩,
      fun full => keeps ((full_iff window comes).mp full)⟩

/-- The last sample is in the window where the one before it was not trimmed off. -/
theorem target_inside {start : UInt64} {before : List DataProbeSample} {previous target : DataProbeSample}
    (left : trim start live = before ++ [previous, target]) (inOrder : live.Pairwise (·.time ≤ ·.time)) :
    start ≤ target.time := by
  cases before with
  | nil => exact trim_inside left inOrder target (by simp)
  | cons first before => exact trim_inside left inOrder target (by simp)

/-- Squashing goes well if and only if it has a mean that keeps the integral. -/
theorem squashable_iff {before : List DataProbeSample} {previous target : DataProbeSample} (window : Window state.1 live)
    (left : trim (state.1.windowStartTime sample.2) live = before ++ [previous, target])
    (full : before.length + 2 = state.1.bufferSampleCount.toNat) :
    Squashable state sample ↔ previous.time ≠ sample.2 ∧ (state.1.windowStartTime sample.2 ≤ previous.time ∨
      target.time = sample.2 ∨ previous.byteCount = target.byteCount) := by
  constructor
  · intro squashable
    exact squashable live before previous target window.liveSamples left full
  · intro condition live' before' previous' target' are left' _
    rw [window.liveSamples] at are
    cases are
    rw [left] at left'
    obtain ⟨-, same⟩ := List.append_inj' left' rfl
    cases same
    exact condition

theorem Kept.integral_iff {probe' : DataProbe} {before : List DataProbeSample} {previous target : DataProbeSample}
    (kept : Kept state live) (inOrder : state.2 ≤ sample.2)
    (left : trim (state.1.windowStartTime sample.2) live = before ++ [previous, target])
    (notNow : previous.time ≠ sample.2)
    (window' : Window probe' (before ++ [{ previous with
      byteCount := squashedByteCount previous target sample.2 }, ⟨sample.2, .ofUInt64 sample.1⟩]))
    (chronicle' : Chronicle sample.2 (before ++ [{ previous with
      byteCount := squashedByteCount previous target sample.2 }, ⟨sample.2, .ofUInt64 sample.1⟩]))
    (sameWindow : probe'.windowSizeMs = state.1.windowSizeMs) :
    probe'.windowByteNanos sample.2 = state.1.windowByteNanos sample.2 ↔
      state.1.windowStartTime sample.2 ≤ previous.time ∨ target.time = sample.2 ∨
        previous.byteCount = target.byteCount := by
  have chronicle := kept.chronicle.mono inOrder
  have inside := target_inside left chronicle.inOrder
  have chronicleLeft := @Chronicle.left _ _ (state.1.windowStartTime sample.2) chronicle
  rw [left] at chronicleLeft
  have started := UInt64.le_trans inside (chronicleLeft.past target (by simp))
  have sameStart : probe'.windowStartTime sample.2 = state.1.windowStartTime sample.2 := by
    unfold windowStartTime
    rw [sameWindow]
  have started' : probe'.windowStartTime sample.2 ≤ sample.2 := by
    rw [sameStart]
    exact started
  rw [window'.windowByteNanos chronicle' started', kept.window.windowByteNanos chronicle started, sameStart,
    ← windowArea_trim _ _ chronicle.inOrder, left, Except.ok.injEq, Option.some_inj]
  exact windowArea_replaced chronicleLeft notNow inside

/-- A sample goes well if and only if the last two can be squashed. -/
theorem goes_iff (kept : Kept state live) (comes : Comes state sample) : Goes state sample ↔ Squashable state sample := by
  obtain ⟨probe', live', accumulates, window', stored, sameWindow, -⟩ := kept.accumulate comes
  have chronicle := kept.chronicle
  have window := kept.window
  have inOrder := comes.inOrder
  rw [goes_iff_of_stored window comes accumulates window']
  cases stored with
  | added room =>
      refine iff_of_true ⟨chronicle.left.later inOrder _, fun full => absurd full (Nat.ne_of_lt room)⟩ ?_
      intro live'' before previous target are left full
      rw [window.liveSamples] at are
      cases are
      rw [left] at room
      simp at room
      omega
  | @replaced before previous target left full =>
      have isFull : (trim (state.1.windowStartTime sample.2) live).length = state.1.bufferSampleCount.toNat := by
        rw [left, ← full]
        simp
      rw [squashable_iff window left full]
      by_cases isNow : previous.time = sample.2
      · refine iff_of_false (fun goes => ?_) fun condition => condition.1 isNow
        exact goes.1.numbers { previous with byteCount := squashedByteCount previous target sample.2 } (by simp)
          (squashedByteCount_none isNow target)
      · have chronicleLeft := @Chronicle.left _ _ (state.1.windowStartTime sample.2) chronicle
        rw [left] at chronicleLeft
        have number : squashedByteCount previous target sample.2 ≠ none := by
          obtain ⟨_, _, _, _, isMean⟩ := (chronicleLeft.mono inOrder).squashed_mean isNow
          rw [isMean]
          exact Option.some_ne_none _
        have chronicle' := chronicleLeft.squashed number inOrder sample.1
        have integral := kept.integral_iff inOrder left isNow window' chronicle' sameWindow
        exact ⟨fun goes => ⟨isNow, integral.mp (goes.2 isFull)⟩,
          fun condition => ⟨chronicle', fun _ => integral.mpr condition.2⟩⟩

theorem Kept.goes (kept : Kept state live) (comes : Comes state sample) (goes : Goes state sample)
    (accumulates : DataProbe.accumulate state sample = .ok state') : ∃ live', Kept state' live' := by
  obtain ⟨probe', live', accumulates', window', -, -, then_⟩ := kept.accumulate comes
  obtain ⟨chronicle', -⟩ := (goes_iff_of_stored kept.window comes accumulates' window').mp goes
  rw [accumulates] at accumulates'
  cases accumulates'
  exact ⟨live', then_ chronicle'⟩

theorem accumulate_ok (accumulates : DataProbe.accumulate state sample = .ok state') :
    ∃ notified, state.1.accumulateWithTime sample.1 sample.2 = .ok (state'.1, notified) ∧ state'.2 = sample.2 := by
  obtain ⟨⟨probe, notified⟩, goes, rest⟩ := bind_ok accumulates
  cases rest
  exact ⟨notified, goes, rfl⟩

theorem comes_run {samples : List (UInt64 × UInt64)} (inOrder : (state.2 :: samples.map Prod.snd).IsChain (· ≤ ·))
    (fits : Follows DataProbe.accumulate Fits state samples) : Follows DataProbe.accumulate Comes state samples := by
  induction samples generalizing state with
  | nil => trivial
  | cons sample samples ih =>
      obtain ⟨fit, fits⟩ := fits
      obtain ⟨notLate, inOrder⟩ := List.isChain_cons_cons.mp inOrder
      refine ⟨⟨notLate, fit⟩, fun state' goes => ih ?_ (fits state' goes)⟩
      obtain ⟨_, _, latest⟩ := accumulate_ok goes
      rwa [latest]

theorem trimFits_small {start : UInt64} {count : Nat} (index : ∀ i, i % count < 2 ^ 16) (oldest : Nat)
    (live : List DataProbeSample) : TrimFits start count oldest live := by
  induction live generalizing oldest with
  | nil => trivial
  | cons first live ih =>
      cases live with
      | nil => trivial
      | cons second live => exact ⟨index _, fun _ => ih _⟩

/-- In an array of up to so many samples, all indices fit. -/
theorem fits_small (some_ : state.1.bufferSampleCount ≠ 0) (small : state.1.bufferSampleCount.toNat ≤ 2 ^ 16) :
    Fits state sample := by
  have size : 0 < state.1.bufferSampleCount.toNat := Nat.pos_of_ne_zero fun zero => some_ (UInt32.toNat_inj.mp zero)
  have index (i : Nat) : i % state.1.bufferSampleCount.toNat < 2 ^ 16 := Nat.lt_of_lt_of_le (Nat.mod_lt i size) small
  refine ⟨fun live _ => trimFits_small index _ live, fun live _ => ?_⟩
  have cursor := index (state.1.oldestSampleIndex.toNat +
    (live.length - (trim (state.1.windowStartTime sample.2) live).length))
  unfold trimmedOldest
  omega

theorem fits_run {fresh : DataProbe} (reached : Reached fresh state.1) (some_ : fresh.bufferSampleCount ≠ 0)
    (small : fresh.bufferSampleCount.toNat ≤ 2 ^ 16) (samples : List (UInt64 × UInt64)) :
    Follows DataProbe.accumulate Fits state samples := by
  induction samples generalizing state with
  | nil => trivial
  | cons sample samples ih =>
      have resets := congrArg DataProbe.bufferSampleCount (reached.resets 0)
      have same : state.1.bufferSampleCount = fresh.bufferSampleCount := resets
      refine ⟨fits_small (same ▸ some_) (same ▸ small), fun state' goes => ih ?_⟩
      obtain ⟨_, goes, _⟩ := accumulate_ok goes
      exact reached.accumulate goes

theorem kept_create {options bufferSampleCount windowSizeMs reportIntervalMs : UInt32} {hasListener : Bool}
    {time : UInt64} {fresh : DataProbe} (window : windowSizeMs ≠ 0) (set : time ≠ 0)
    (creates : create options bufferSampleCount windowSizeMs reportIntervalMs hasListener time = .ok fresh) :
    Kept (fresh, time) [] := by
  have sized := (reached_create creates).sized
  obtain ⟨room, rfl⟩ := create_ok creates
  have some_ : 0 < bufferSampleCount.toNat := Nat.zero_lt_of_lt (UInt32.lt_iff_toNat_lt.mp (room window))
  refine ⟨⟨sized, window, holds_nil ?_, rfl⟩, ⟨.nil, ?_, ?_⟩, ?_, set, UInt64.le_refl _, UInt64.le_refl _⟩
  · simpa using some_
  · exact fun _ is => absurd is List.not_mem_nil
  · exact fun _ is => absurd is List.not_mem_nil
  · intro sample is
    rw [List.eq_of_mem_replicate is]
    exact UInt64.zero_le

/-- The samples that a probe gets go well if and only if there is a mean that keeps the integral, each time that two
    of them are squashed. -/
theorem samples_go_well {options bufferSampleCount windowSizeMs reportIntervalMs : UInt32} {hasListener : Bool}
    {time : UInt64} {fresh : DataProbe} {samples : List (UInt64 × UInt64)} (window : windowSizeMs ≠ 0) (set : time ≠ 0)
    (creates : create options bufferSampleCount windowSizeMs reportIntervalMs hasListener time = .ok fresh)
    (inOrder : (time :: samples.map Prod.snd).IsChain (· ≤ ·))
    (fits : Follows DataProbe.accumulate Fits (fresh, time) samples) :
    Follows DataProbe.accumulate Goes (fresh, time) samples ↔
      Follows DataProbe.accumulate Squashable (fresh, time) samples := by
  refine @Follows.iff _ _ _ _ (fresh, time) _ _ _ (fun state => ∃ live, Kept state live) ?_ ?_
    ⟨[], kept_create window set creates⟩ _ (@comes_run (fresh, time) samples inOrder fits)
  · intro state sample kept comes
    obtain ⟨live, kept⟩ := kept
    exact goes_iff kept comes
  · intro state sample state' kept comes goes accumulates
    obtain ⟨live, kept⟩ := kept
    exact kept.goes comes goes accumulates

/-- A probe for two samples, and the time that it was reset at. -/
def smallProbe (samples : List DataProbeSample) (num total : UInt32) : DataProbe × UInt64 :=
  (⟨6, 2, 1000, 0, samples, 0, num, total, ⟨0, 0, 0, 0, 0, 0, 0, 2000000000⟩, 2000000000, false⟩, 2000000000)

theorem samples_go_well_three :
    Follows DataProbe.accumulate Goes (smallProbe [⟨0, some 0⟩, ⟨0, some 0⟩] 0 0)
        [(1000, 2000000000), (2000, 2100000000), (3000, 2300000000)] ↔
      Follows DataProbe.accumulate Squashable (smallProbe [⟨0, some 0⟩, ⟨0, some 0⟩] 0 0)
        [(1000, 2000000000), (2000, 2100000000), (3000, 2300000000)] := by
  have creates : create 6 2 1000 0 false 2000000000 = .ok (smallProbe [⟨0, some 0⟩, ⟨0, some 0⟩] 0 0).1 := rfl
  have fits := @fits_run (smallProbe [⟨0, some 0⟩, ⟨0, some 0⟩] 0 0) _ (reached_create creates) (by decide) (by decide)
    [(1000, 2000000000), (2000, 2100000000), (3000, 2300000000)]
  exact samples_go_well (by decide) (by decide) creates (by decide) fits

/-- Three samples at the same time are one too many for an array of two. -/
theorem three_samples_at_once : ¬ ∀ (options bufferSampleCount windowSizeMs reportIntervalMs : UInt32)
    (hasListener : Bool) (time : UInt64) (fresh : DataProbe) (samples : List (UInt64 × UInt64)), windowSizeMs ≠ 0 →
    time ≠ 0 → create options bufferSampleCount windowSizeMs reportIntervalMs hasListener time = .ok fresh →
    (time :: samples.map Prod.snd).IsChain (· ≤ ·) → Follows DataProbe.accumulate Goes (fresh, time) samples := by
  intro claim
  have goes := claim 6 2 1000 0 false 2000000000 _
    [(1000, 2000000000), (1000, 2000000000), (1000, 2000000000)] (by decide) (by decide) rfl (by decide)
  have first : DataProbe.accumulate (smallProbe [⟨0, some 0⟩, ⟨0, some 0⟩] 0 0) (1000, 2000000000) =
      .ok (smallProbe [⟨2000000000, some 1000⟩, ⟨0, some 0⟩] 1 1000) := by decide +kernel
  have second : DataProbe.accumulate (smallProbe [⟨2000000000, some 1000⟩, ⟨0, some 0⟩] 1 1000) (1000, 2000000000) =
      .ok (smallProbe [⟨2000000000, some 1000⟩, ⟨2000000000, some 1000⟩] 2 2000) := by decide +kernel
  have third : DataProbe.accumulate (smallProbe [⟨2000000000, some 1000⟩, ⟨2000000000, some 1000⟩] 2 2000)
      (1000, 2000000000) = .ok (smallProbe [⟨2000000000, none⟩, ⟨2000000000, some 1000⟩] 2 3000) := by decide +kernel
  obtain ⟨state', live, is, kept, -⟩ := ((goes.2 _ first).2 _ second).1
  rw [third] at is
  cases is
  have are := kept.are
  cases are
  exact kept.chronicle.numbers ⟨2000000000, none⟩ (List.mem_cons_self ..) rfl

end Runs

end GoldenGate.DataProbe
