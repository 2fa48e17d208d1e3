import GoldenGate.Common.Streams

/-! # Reading a line

The embedding of `GG_InputStream_ReadLine`, over any stream that keeps to the interface.
-/

namespace GoldenGate.Streams

open Memory

/-- What is there after a call: the result, the buffer and the number of characters of the caller, and the stream. -/
structure LineRead (σ : Type) where
  result : Except Error Unit
  buffer : List UInt8
  charsRead : Nat
  stream : σ

section Model

variable {σ : Type} (stream : InputStream σ) (size : Nat)

/-- The loop of `GG_InputStream_ReadLine`, with the pointer `total` characters behind the start of the buffer. -/
def readLineFrom : Nat → σ → List UInt8 → Nat → Access (LineRead σ)
  | 0, _, _, _ => .error .diverges
  | fuel + 1, s, buffer, total =>
      match stream.read s 1 with
      | (.ok [c], s') => do
          let buffer ← store buffer total [c]
          if c = 10 then do
            let buffer ← store buffer total [0]
            .ok ⟨.ok (), buffer, total, s'⟩
          else
            let total := if c = 13 then total else total + 1
            if total < size - 1 then readLineFrom fuel s' buffer total
            else do
              let buffer ← store buffer total [0]
              .ok ⟨.ok (), buffer, total, s'⟩
      | (.ok _, s') => .ok ⟨.ok (), buffer, total, s'⟩
      | (.error .eos, s') => do
          let buffer ← store buffer total [0]
          .ok ⟨if total ≠ 0 then .ok () else .error .eos, buffer, total, s'⟩
      | (.error e, s') => .ok ⟨.error e, buffer, total, s'⟩

/-- `GG_InputStream_ReadLine`; each turn of the loop takes a byte of the content. -/
def readLine (s : σ) (buffer : Option (List UInt8)) (charsRead : Nat) : Access (LineRead σ) :=
  match buffer with
  | none => .ok ⟨.error .invalidParameters, [], charsRead, s⟩
  | some buffer =>
      if size < 1 then .ok ⟨.error .invalidParameters, buffer, charsRead, s⟩
      else readLineFrom stream size ((stream.content s).length + 1) s buffer 0

end Model

/-! ## Lines -/

def IsOrdinary (c : UInt8) : Prop := c ≠ 10 ∧ c ≠ 13

instance (c : UInt8) : Decidable (IsOrdinary c) := inferInstanceAs (Decidable (c ≠ 10 ∧ c ≠ 13))

/-- The characters of a line: what was read, but the line feed and the carriage returns. -/
def characters (raw : List UInt8) : List UInt8 := raw.filter IsOrdinary

section Lines

variable {σ : Type} (stream : InputStream σ)

/-- The stream said that it is at its end, and this is its state then. -/
def AtEnd (s : σ) : Prop := ∃ before, stream.read before 1 = (.error .eos, s)

/-- The buffer holds the characters that were there before and those of what was read since, and a zero. No line feed
    was read but as the last character; the line ended with it, at the limit, or with the stream. -/
def HoldsLine (limit : Nat) (before : List UInt8) (s : σ) (line : LineRead σ) : Prop :=
  ∃ raw, stream.content s = raw ++ stream.content line.stream ∧ 10 ∉ raw.dropLast ∧
    line.charsRead = (before ++ characters raw).length ∧ line.charsRead ≤ limit ∧
    line.buffer.take (line.charsRead + 1) = before ++ characters raw ++ [0] ∧
    (raw.getLast? = some 10 ∨ line.charsRead = limit ∨ line.charsRead ≠ 0 ∧ AtEnd stream line.stream)

/-- The function stays inside of the buffer, and when it succeeds, the buffer holds the next line. -/
def ReadsLine (size : Nat) (s : σ) : Prop :=
  ∀ buffer charsRead, buffer.length = size → ∃ line, readLine stream size s (some buffer) charsRead = .ok line ∧
    (line.result = .ok () → HoldsLine stream (size - 1) [] s line)

/-- What the loop does not foresee: that a read gives nothing and still succeeds, and that there is no room for the
    first character. -/
inductive Unforeseen : Nat → σ → Prop where
  | nothing {room : Nat} {s s' : σ} (reads : stream.read s 1 = (.ok [], s')) : Unforeseen room s
  | noRoom {c : UInt8} {s s' : σ} (reads : stream.read s 1 = (.ok [c], s')) (ordinary : IsOrdinary c) : Unforeseen 0 s
  | carriageReturn {room : Nat} {s s' : σ} (reads : stream.read s 1 = (.ok [13], s')) (later : Unforeseen (room + 1) s') :
      Unforeseen (room + 1) s
  | character {room : Nat} {c : UInt8} {s s' : σ} (reads : stream.read s 1 = (.ok [c], s')) (ordinary : IsOrdinary c)
      (later : Unforeseen (room + 1) s') : Unforeseen (room + 2) s

variable {stream}

/-- One more character was read before the rest of the line. -/
theorem HoldsLine.cons {limit : Nat} {before : List UInt8} {s s' : σ} {line : LineRead σ} {c : UInt8}
    (reads : stream.read s 1 = (.ok [c], s')) (other : c ≠ 10)
    (holds : HoldsLine stream limit (before ++ characters [c]) s' line) : HoldsLine stream limit before s line := by
  obtain ⟨raw, content, noFeed, count, few, text, ends⟩ := holds
  have split : characters (c :: raw) = characters [c] ++ characters raw := by
    rw [characters, characters, characters, ← List.filter_append]
    rfl
  refine ⟨c :: raw, ?_, ?_, ?_, few, ?_, ?_⟩
  · rw [stream.content_read reads, content]
    rfl
  · cases raw with
    | nil => exact List.not_mem_nil
    | cons next raw =>
        rw [List.dropLast_cons_cons]
        grind
  · rw [count, split, List.append_assoc]
  · rw [text, split, List.append_assoc before]
  · rcases ends with feed | full | atEnd
    · cases raw with
      | nil => cases feed
      | cons next raw => exact .inl (by rw [List.getLast?_cons_cons, feed])
    · exact .inr (.inl full)
    · exact .inr (.inr atEnd)

/-- The line ended with a character that was read. -/
theorem HoldsLine.last {limit : Nat} {before : List UInt8} {s s' : σ} {c : UInt8} {rest : List UInt8}
    (reads : stream.read s 1 = (.ok [c], s')) (few : (before ++ characters [c]).length ≤ limit)
    (ends : c = 10 ∨ (before ++ characters [c]).length = limit) :
    HoldsLine stream limit before s
      ⟨.ok (), before ++ characters [c] ++ 0 :: rest, (before ++ characters [c]).length, s'⟩ := by
  refine ⟨[c], stream.content_read reads, List.not_mem_nil, rfl, few, ?_, ?_⟩
  · show List.take ((before ++ characters [c]).length + 1) (before ++ characters [c] ++ 0 :: rest) = _
    rw [List.take_add_one, List.take_left, List.getElem?_append_right (Nat.le_refl _), Nat.sub_self]
    rfl
  · rcases ends with rfl | full
    · exact .inl rfl
    · exact .inr (.inl full)

/-- The stream ended behind the characters that were there. -/
theorem HoldsLine.atEnd {limit : Nat} {before : List UInt8} {s s' : σ} {result : Except Error Unit} {rest : List UInt8}
    (reads : stream.read s 1 = (.error .eos, s')) (few : before.length ≤ limit) (some : before.length ≠ 0) :
    HoldsLine stream limit before s ⟨result, before ++ 0 :: rest, before.length, s'⟩ := by
  refine ⟨[], (stream.content_fails reads).symm, List.not_mem_nil, ?_, few, ?_, .inr (.inr ⟨some, s, reads⟩)⟩
  · simp [characters]
  · show List.take (before.length + 1) (before ++ 0 :: rest) = _
    rw [List.take_add_one, List.take_left, List.getElem?_append_right (Nat.le_refl _), Nat.sub_self]
    simp [characters]

theorem characters_ordinary {c : UInt8} (ordinary : IsOrdinary c) : characters [c] = [c] := by
  simp [characters, ordinary]

/-- One turn of the loop that read a character. -/
theorem readLineFrom_char {s s' : σ} {c : UInt8} (reads : stream.read s 1 = (.ok [c], s')) (size fuel : Nat)
    (before : List UInt8) (old : UInt8) (rest : List UInt8) :
    readLineFrom stream size (fuel + 1) s (before ++ old :: rest) before.length =
      if c = 10 then .ok ⟨.ok (), before ++ 0 :: rest, before.length, s'⟩
      else if c = 13 then
        (if before.length < size - 1 then readLineFrom stream size fuel s' (before ++ 13 :: rest) before.length
        else .ok ⟨.ok (), before ++ 0 :: rest, before.length, s'⟩)
      else if before.length + 1 < size - 1 then
        readLineFrom stream size fuel s' (before ++ c :: rest) (before.length + 1)
      else store (before ++ c :: rest) (before.length + 1) [0] >>= fun buffer =>
        .ok ⟨.ok (), buffer, before.length + 1, s'⟩ := by
  rw [readLineFrom, reads]
  simp only [store_at, ok_bind]
  by_cases feed : c = 10
  · simp only [if_pos feed]
  · by_cases return_ : c = 13
    · subst return_
      simp only [if_neg feed, if_true, store_at, ok_bind]
    · simp only [if_neg feed, if_neg return_]

/-- Behind the characters that are in the buffer, the loop reads the rest of the line. -/
theorem readLineFrom_line {fuel : Nat} {s : σ} (enough : (stream.content s).length < fuel) (before rest : List UInt8)
    {room : Nat} (sized : rest.length = room + 1) (start : room = 0 → before = [])
    (foreseen : ¬ Unforeseen stream room s) :
    ∃ line, readLineFrom stream (before.length + room + 1) fuel s (before ++ rest) before.length = .ok line ∧
      (line.result = .ok () → HoldsLine stream (before.length + room) before s line) := by
  induction fuel generalizing s before rest room with
  | zero => omega
  | succ fuel ih =>
      obtain ⟨old, rest, rfl⟩ := List.exists_cons_of_length_eq_add_one sized
      obtain ⟨⟨result, s'⟩, reads⟩ : ∃ answer, stream.read s 1 = answer := ⟨_, rfl⟩
      cases result with
      | error e =>
          rw [readLineFrom, reads]
          cases e with
          | eos =>
              simp only [store_at, ok_bind]
              refine ⟨_, rfl, fun done => .atEnd reads (by omega) ?_⟩
              intro none
              simp [none] at done
          | _ => exact ⟨_, rfl, nofun⟩
      | ok bytes =>
          have content := stream.content_read reads
          match bytes, reads, content with
          | [], reads, _ => exact absurd (.nothing reads) foreseen
          | _ :: _ :: _, reads, _ =>
              have short := stream.length_read reads
              simp at short
          | [c], reads, content =>
              have shorter : (stream.content s').length < fuel := by
                rw [content] at enough
                simp only [List.singleton_append, List.length_cons] at enough
                omega
              have last := fun rest => @HoldsLine.last σ stream (before.length + room) before s s' c rest reads
              rw [readLineFrom_char reads]
              by_cases feed : c = 10
              · subst feed
                rw [if_pos rfl]
                have none : before ++ characters [10] = before := List.append_nil before
                rw [none] at last
                exact ⟨_, rfl, fun _ => last rest (by omega) (.inl rfl)⟩
              rw [if_neg feed]
              by_cases return_ : c = 13
              · subst return_
                have none : before ++ characters [13] = before := List.append_nil before
                rw [none] at last
                rw [if_pos rfl]
                by_cases more : before.length < before.length + room + 1 - 1
                · obtain ⟨room, rfl⟩ : ∃ k, room = k + 1 := ⟨room - 1, by omega⟩
                  obtain ⟨line, reads', holds⟩ := ih shorter before (13 :: rest) sized start
                    (fun later => foreseen (.carriageReturn reads later))
                  rw [if_pos more, reads']
                  exact ⟨line, rfl, fun done => .cons reads feed (none.symm ▸ holds done)⟩
                · rw [if_neg more]
                  exact ⟨_, rfl, fun _ => last rest (by omega) (.inr (by omega))⟩
              · have ordinary : IsOrdinary c := ⟨feed, return_⟩
                rw [characters_ordinary ordinary] at last
                rw [if_neg return_]
                match room, sized, foreseen, start with
                | 0, _, foreseen, _ => exact absurd (.noRoom reads ordinary) foreseen
                | 1, sized, _, _ =>
                    obtain ⟨next, rest, rfl⟩ := List.exists_cons_of_length_eq_add_one (Nat.succ.inj sized)
                    have stored := store_at (before ++ [c]) next 0 rest
                    simp only [List.append_assoc, List.singleton_append, List.length_append, List.length_singleton]
                      at stored last
                    rw [if_neg (by omega), stored]
                    exact ⟨_, rfl, fun _ => last rest (by omega) (.inr trivial)⟩
                | room + 2, sized, foreseen, _ =>
                    obtain ⟨line, reads', holds⟩ := ih shorter (before ++ [c]) rest (Nat.succ.inj sized)
                      (fun none => absurd none (Nat.succ_ne_zero room))
                      (fun later => foreseen (.character reads ordinary later))
                    have size : (before ++ [c]).length + (room + 1) = before.length + (room + 2) := by
                      simp
                      omega
                    rw [size, List.append_assoc, List.singleton_append, List.length_append] at reads'
                    rw [size] at holds
                    rw [if_pos (by omega)]
                    refine ⟨line, reads', fun done => .cons reads feed ?_⟩
                    rw [characters_ordinary ordinary]
                    exact holds done

/-- A read that gives nothing leaves the line without its end, whatever else was in the buffer; and without room for a
    character, the end of the line is stored behind the buffer. -/
theorem readLineFrom_unforeseen {fuel room : Nat} {s : σ} (unforeseen : Unforeseen stream room s)
    (enough : (stream.content s).length < fuel) (before rest : List UInt8) (sized : rest.length = room + 1)
    (start : room = 0 → before = []) (unset : ∀ c ∈ rest, c ≠ 0) :
    readLineFrom stream (before.length + room + 1) fuel s (before ++ rest) before.length = .error .outOfBounds ∨
      ∃ line, readLineFrom stream (before.length + room + 1) fuel s (before ++ rest) before.length = .ok line ∧
        line.result = .ok () ∧ ∃ c, line.buffer[line.charsRead]? = some c ∧ c ≠ 0 := by
  induction unforeseen generalizing fuel before rest with
  | nothing reads =>
      obtain ⟨fuel, rfl⟩ : ∃ k, fuel = k + 1 := ⟨fuel - 1, by omega⟩
      obtain ⟨old, rest, rfl⟩ := List.exists_cons_of_length_eq_add_one sized
      rw [readLineFrom, reads]
      exact .inr ⟨_, rfl, rfl, old, by simp, unset old List.mem_cons_self⟩
  | @noRoom c s s' reads ordinary =>
      obtain ⟨fuel, rfl⟩ : ∃ k, fuel = k + 1 := ⟨fuel - 1, by omega⟩
      obtain ⟨old, rest, rfl⟩ := List.exists_cons_of_length_eq_add_one sized
      have one : rest = [] := by simpa using sized
      have empty : before = [] := start rfl
      subst one empty
      have char := readLineFrom_char reads 1 fuel [] old []
      rw [if_neg ordinary.1, if_neg ordinary.2, if_neg (by simp)] at char
      exact .inl (char.trans (by simp [store]))
  | @carriageReturn room s s' reads later ih =>
      obtain ⟨fuel, rfl⟩ : ∃ k, fuel = k + 1 := ⟨fuel - 1, by omega⟩
      obtain ⟨old, rest, rfl⟩ := List.exists_cons_of_length_eq_add_one sized
      have shorter := enough
      rw [stream.content_read reads, List.length_append, List.length_singleton] at shorter
      have next := @ih fuel (by omega) before (13 :: rest) sized (fun same => by cases same) (by
        intro c inside
        rcases List.mem_cons.mp inside with rfl | inside
        · decide
        · exact unset c (List.mem_cons_of_mem old inside))
      rw [readLineFrom_char reads, if_neg (by decide), if_pos rfl, if_pos (by omega)]
      exact next
  | @character room c s s' reads ordinary later ih =>
      obtain ⟨fuel, rfl⟩ : ∃ k, fuel = k + 1 := ⟨fuel - 1, by omega⟩
      obtain ⟨old, rest, rfl⟩ := List.exists_cons_of_length_eq_add_one sized
      have shorter := enough
      rw [stream.content_read reads, List.length_append, List.length_singleton] at shorter
      have next := @ih fuel (by omega) (before ++ [c]) rest (Nat.succ.inj sized) (fun same => by cases same)
        (fun d inside => unset d (List.mem_cons_of_mem old inside))
      have size : (before ++ [c]).length + (room + 1) = before.length + (room + 2) := by
        simp
        omega
      rw [size, List.append_assoc, List.singleton_append, List.length_append, List.length_singleton] at next
      rw [readLineFrom_char reads, if_neg ordinary.1, if_neg ordinary.2, if_pos (by omega)]
      exact next

/-- A line is read into a buffer of any size, unless a read does something that the loop does not foresee. -/
theorem readsLine_iff (stream : InputStream σ) {size : Nat} (some : 1 ≤ size) (s : σ) :
    ReadsLine stream size s ↔ ¬ Unforeseen stream (size - 1) s := by
  obtain ⟨room, rfl⟩ : ∃ room, size = room + 1 := ⟨size - 1, by omega⟩
  constructor
  · intro readsLine unforeseen
    obtain ⟨line, reads, holds⟩ := readsLine (List.replicate (room + 1) 1) 0 List.length_replicate
    rw [readLine, if_neg (by omega)] at reads
    have bad := readLineFrom_unforeseen unforeseen (Nat.lt_succ_self _) [] (List.replicate (room + 1) 1)
      List.length_replicate (fun _ => rfl) (by
        intro c inside
        rw [List.eq_of_mem_replicate inside]
        decide)
    rw [List.length_nil, List.nil_append, Nat.zero_add, Nat.add_sub_cancel, reads] at bad
    rcases bad with faults | ⟨other, same, done, c, last, unset⟩
    · cases faults
    · cases same
      obtain ⟨raw, -, -, count, -, text, -⟩ := holds done
      have zero := congrArg (fun l => l[line.charsRead]?) text
      rw [List.nil_append] at count
      simp only [List.getElem?_take, Nat.lt_succ_self, if_true, List.nil_append, last] at zero
      rw [count, List.getElem?_append_right (Nat.le_refl _), Nat.sub_self] at zero
      exact unset (Option.some.inj zero)
  · intro foreseen buffer charsRead sized
    have reads := readLineFrom_line (Nat.lt_succ_self _) [] buffer sized (fun _ => rfl) foreseen
    rw [List.length_nil, List.nil_append, Nat.zero_add] at reads
    rw [readLine, if_neg (by omega)]
    exact reads

/-- A line with a carriage return fits into a buffer of three. -/
theorem readsLine_three : 1 ≤ 3 ∧ ReadsLine pieces 3 [[97], [13], [10]] := by
  have some : 1 ≤ 3 := by decide
  refine ⟨some, (readsLine_iff pieces some [[97], [13], [10]]).mpr fun unforeseen => ?_⟩
  cases unforeseen with
  | nothing reads => cases reads
  | carriageReturn reads => cases reads
  | character reads _ later =>
      cases reads
      cases later with
      | nothing reads => cases reads
      | carriageReturn reads later =>
          cases reads
          cases later with
          | nothing reads => cases reads
          | carriageReturn reads => cases reads

/-- One character does not fit into a buffer of one. -/
theorem not_readsLine_one : ¬ ReadsLine pieces 1 [[97]] := by
  intro readsLine
  have faults : readLine pieces 1 [[97]] (some [0]) 0 = .error .outOfBounds := rfl
  obtain ⟨line, reads, -⟩ := readsLine [0] 0 rfl
  rw [faults] at reads
  cases reads

end Lines

end GoldenGate.Streams
